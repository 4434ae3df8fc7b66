import DashboardCheck.Text.Blank
import DashboardCheck.Text.Lower
import DashboardCheck.Text.Split

/-!
Releases of the storage cluster: an Ubuntu series with an OpenStack codename. Releases are ordered
as their pairs stand in the table, oldest first, which is neither the order of the series nor that
of the codenames.
-/
namespace DashboardCheck

/-- The known pairs of series and codename, oldest first. -/
def Release.pairs : List (String × String) :=
  [("trusty", "icehouse"), ("trusty", "kilo"), ("trusty", "liberty"), ("trusty", "mitaka"),
   ("xenial", "mitaka"), ("xenial", "newton"), ("yakkety", "newton"), ("xenial", "ocata"),
   ("zesty", "ocata"), ("xenial", "pike"), ("artful", "pike"), ("xenial", "queens"),
   ("bionic", "queens"), ("bionic", "rocky"), ("cosmic", "rocky"), ("bionic", "stein"),
   ("disco", "stein"), ("bionic", "train"), ("eoan", "train"), ("bionic", "ussuri"),
   ("focal", "ussuri"), ("focal", "victoria"), ("groovy", "victoria"), ("focal", "wallaby"),
   ("hirsute", "wallaby"), ("focal", "xena"), ("impish", "xena"), ("focal", "yoga"),
   ("jammy", "yoga"), ("jammy", "zed"), ("kinetic", "zed"), ("jammy", "antelope"),
   ("lunar", "antelope"), ("jammy", "bobcat"), ("mantic", "bobcat"), ("jammy", "caracal"),
   ("noble", "caracal")]

def Release.defaults : List (String × String) :=
  [("trusty", "icehouse"), ("xenial", "mitaka"), ("yakkety", "newton"), ("zesty", "ocata"),
   ("artful", "pike"), ("bionic", "queens"), ("cosmic", "rocky"), ("disco", "stein"),
   ("eoan", "train"), ("focal", "ussuri"), ("groovy", "victoria"), ("hirsute", "wallaby"),
   ("impish", "xena"), ("jammy", "yoga"), ("kinetic", "zed"), ("lunar", "antelope"),
   ("mantic", "bobcat"), ("noble", "caracal")]

def Release.versions : List (String × String) :=
  [("14.04", "trusty"), ("16.04", "xenial"), ("16.10", "yakkety"), ("17.04", "zesty"),
   ("17.10", "artful"), ("18.04", "bionic"), ("18.10", "cosmic"), ("19.04", "disco"),
   ("19.10", "eoan"), ("20.04", "focal"), ("20.10", "groovy"), ("21.04", "hirsute"),
   ("21.10", "impish"), ("22.04", "jammy"), ("22.10", "kinetic"), ("23.04", "lunar"),
   ("23.10", "mantic"), ("24.04", "noble")]

structure Release where
  index : Fin Release.pairs.length
  deriving DecidableEq, Repr

inductive ReleaseError where
  | unknownPair (pair : String)
  | unknownSeries (series : String)
  | unsupportedSource (source : String)
  deriving DecidableEq, Repr

def ReleaseError.message : ReleaseError → String
  | unknownPair pair => s!"unknown release pair: {pair}"
  | unknownSeries series => s!"unknown series: {series}"
  | unsupportedSource source => s!"unsupported source '{source}'"

namespace Release

def series (r : Release) : String := (pairs.get r.index).1

def codename (r : Release) : String := (pairs.get r.index).2

def text (r : Release) : String := r.series ++ "_" ++ r.codename

/-- A name as it is looked up: without blanks at its ends and in lower case. -/
def normal (name : String) : String := Text.lower (Text.trim name)

def find? (pair : String × String) : Option Release :=
  (pairs.finIdxOf? pair).map Release.mk

def ofPair (series codename : String) : Except ReleaseError Release :=
  match find? (normal series, normal codename) with
  | some r => .ok r
  | none => .error (.unknownPair (normal series ++ "_" ++ normal codename))

def parse (s : String) : Except ReleaseError Release :=
  match Text.cutFirst '_' (Text.trim s).toList with
  | some (series, codename) => ofPair (String.ofList series) (String.ofList codename)
  | none => .error (.unknownPair s)

def ofSeries (series : String) : Except ReleaseError Release :=
  match defaults.find? fun entry => entry.1 == normal series with
  | some (_, codename) => ofPair (normal series) codename
  | none => .error (.unknownSeries (normal series))

/-- Whether a package source means the packages of the distribution itself. -/
def isDistribution (source : String) : Bool :=
  source.isEmpty || source == "distro" || "distro-".toList.isPrefixOf source.toList

def ofSource (source series : String) : Except ReleaseError Release :=
  let source := Text.trim source
  if isDistribution source then ofSeries series
  else match Text.stripStart "cloud:".toList source.toList with
    | none => .error (.unsupportedSource source)
    | some cloud =>
      match Text.cutFirst '-' (Text.before '/' cloud) with
      | none => .error (.unsupportedSource source)
      | some (cloudSeries, codename) =>
        ofPair (String.ofList cloudSeries) (String.ofList codename)

/-- The series that a base channel such as `22.04/stable` names; a series names itself. -/
def seriesOfChannel (channel : String) : Except ReleaseError String :=
  let channel := Text.trim channel
  let version := String.ofList (Text.before '/' channel.toList)
  match versions.find? fun entry => entry.1 == version with
  | some (_, series) => .ok series
  | none =>
    if defaults.any fun entry => entry.1 == version then .ok version
    else .error (.unknownSeries channel)

instance : LT Release := ⟨fun a b => a.index < b.index⟩
instance : LE Release := ⟨fun a b => a.index ≤ b.index⟩
instance (a b : Release) : Decidable (a < b) := inferInstanceAs (Decidable (a.index < b.index))
instance (a b : Release) : Decidable (a ≤ b) := inferInstanceAs (Decidable (a.index ≤ b.index))

/-- Whether the first release is older than, the same as or newer than the second. -/
def order (a b : Release) : Ordering := compare a.index.val b.index.val

end Release

end DashboardCheck
