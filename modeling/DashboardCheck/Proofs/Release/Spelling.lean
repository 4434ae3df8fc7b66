import DashboardCheck.Proofs.Document.Value
import DashboardCheck.Proofs.Json.Value
import DashboardCheck.Proofs.Release.Channel
import DashboardCheck.Release.Reading

/-!
# Ways to name a release

A release is named by a series and a codename: as a pair, as a text with an underscore between them,
or by the package source of a cloud archive, with a pocket or without. Each way trims at places of
its own and cuts at a separator of its own, but what is looked up in the end is the pair in normal
form. So all ways have one result, and a release is told by its pair in normal form.
-/
namespace DashboardCheck.Release

open Text

variable {series codename series' codename' : String} {r r' : Release}

def pair (r : Release) : String × String := (r.series, r.codename)

def normalPair (series codename : String) : String × String := (normal series, normal codename)

theorem nodup_pairs : pairs.Nodup := by decide

/-- The pairs of the table are in normal form. -/
theorem normalPair_of_mem : ∀ pair ∈ pairs, normalPair pair.1 pair.2 = pair := by
  decide +kernel

theorem not_mem_series : ∀ pair ∈ pairs, '_' ∉ pair.1.toList := by decide

theorem pair_mem (r : Release) : r.pair ∈ pairs := List.get_mem pairs r.index

theorem pair_inj : r.pair = r'.pair ↔ r = r' := by
  constructor
  · intro h
    have hindex : r.index = r'.index := nodup_pairs.injective_get h
    exact congrArg Release.mk hindex
  · rintro rfl
    rfl

theorem find?_eq_some_iff {sought : String × String} : find? sought = some r ↔ r.pair = sought := by
  rw [find?, Option.map_eq_some_iff]
  constructor
  · rintro ⟨i, hi, rfl⟩
    exact (List.finIdxOf?_eq_some_iff.mp hi).1
  · rintro rfl
    refine ⟨r.index, List.finIdxOf?_eq_some_iff.mpr ⟨rfl, fun j hj hsame => ?_⟩, rfl⟩
    exact absurd (nodup_pairs.injective_get hsame) (Fin.ne_of_lt hj)

theorem ofPair_eq_ok_iff :
    ofPair series codename = .ok r ↔ r.pair = normalPair series codename := by
  rw [← find?_eq_some_iff]
  -- an equation lemma would look into the table of pairs
  delta ofPair
  rw [← normalPair]
  cases find? (normalPair series codename) <;> simp

/-- A pair has a release if its normal form is in the table. -/
theorem exists_ofPair_iff :
    (∃ release, ofPair series codename = .ok release) ↔ normalPair series codename ∈ pairs := by
  constructor
  · rintro ⟨release, h⟩
    rw [← ofPair_eq_ok_iff.mp h]
    exact release.pair_mem
  · intro hmem
    obtain ⟨i, hi⟩ := List.get_of_mem hmem
    exact ⟨⟨i⟩, ofPair_eq_ok_iff.mpr hi⟩

/-- Blanks at the ends of the names have no say, not even in what is complained about. -/
theorem ofPair_congr (hseries : trim series = trim series')
    (hcodename : trim codename = trim codename') :
    ofPair series codename = ofPair series' codename' := by
  delta ofPair
  rw [normal, normal, normal, normal, hseries, hcodename]

/-- A text is cut at its first underscore, and trimmed on either side of it. -/
theorem parse_append (h : '_' ∉ series.toList) (codename : String) :
    parse (series ++ "_" ++ codename) = ofPair series codename := by
  have htrim : (trim (series ++ "_" ++ codename)).toList =
      series.toList.dropWhile isBlank ++ '_' :: dropBlankEnd codename.toList := by
    rw [trim, String.toList_ofList, ← trimChars_append_cons (by decide)]
    simp
  have hfront : '_' ∉ series.toList.dropWhile isBlank :=
    fun hmem => h ((List.dropWhile_sublist isBlank).mem hmem)
  rw [parse, htrim, cutFirst_append _ hfront]
  refine ofPair_congr ?_ ?_
  · rw [trim, String.toList_ofList, trimChars_dropWhile, ← trim]
  · rw [trim, String.toList_ofList, trimChars_dropBlankEnd, ← trim]

theorem parse_text (r : Release) : parse r.text = .ok r := by
  have hcut : parse r.text = ofPair r.series r.codename :=
    parse_append (not_mem_series r.pair r.pair_mem) r.codename
  rw [hcut, ofPair_eq_ok_iff]
  exact (normalPair_of_mem r.pair r.pair_mem).symm

/-- A release is read from any document that has its text for a value. -/
theorem read_of_parse {text : String} (h : Json.parse text = .ok (.string r.text)) :
    Json.read shape text = .ok r := by
  obtain ⟨hany, hrest⟩ := Json.read_eq_ok_iff.mp h
  obtain ⟨mark, hnode⟩ := Document.Shape.any_string hany
  refine Json.read_eq_ok_iff.mpr ⟨?_, hrest⟩
  rw [hnode]
  simp only [shape, Document.Shape.text, parse_text, bind, Except.bind, pure, Except.pure]

/-- What is written of a release as a document is its text. -/
theorem parse_compact (r : Release) :
    Json.parse (Json.Value.string r.text).compact = .ok (.string r.text) := by
  have hall : ∀ i : Fin pairs.length, Json.writes (Json.Value.string (Release.mk i).text).compact
      (.string (Release.mk i).text) = true := by decide +kernel
  exact Json.parse_of_writes (hall r.index)

def archive (series codename : String) : Option String → String
  | none => "cloud:" ++ series ++ "-" ++ codename
  | some pocket => "cloud:" ++ series ++ "-" ++ codename ++ "/" ++ pocket

/-- A source that does not mean the distribution is an archive or is not supported. -/
theorem ofSource_other {source : String} (h : ¬ IsDistribution source) (deployed : String) :
    ofSource source deployed =
      match (stripStart "cloud:".toList (trim source).toList).bind
        fun cloud => cutFirst '-' (before '/' cloud) with
      | some (series, codename) => ofPair (String.ofList series) (String.ofList codename)
      | none => .error (.unsupportedSource (trim source)) := by
  rw [ofSource, if_neg (mt isDistribution_iff.mp h)]
  cases stripStart "cloud:".toList (trim source).toList with
  | none => rfl
  | some cloud =>
    simp only [Option.bind_some]
    cases cutFirst '-' (before '/' cloud) <;> rfl

/-- A source that names an archive is cut behind its start, at its first slash and at its first
dash. -/
theorem ofSource_of_trim {source : String} {front back tail : List Char}
    (htrim : (trim source).toList = "cloud:".toList ++ (front ++ '-' :: (back ++ tail)))
    (hfront : '-' ∉ front ∧ '/' ∉ front) (hback : '/' ∉ back) (htail : IsTail tail)
    (deployed : String) :
    ofSource source deployed = ofPair (String.ofList front) (String.ofList back) := by
  have harchive : ¬ IsDistribution source := by
    rintro (hnone | hname | hstart)
    · simp [hnone] at htrim
    · simp [hname] at htrim
    · simp [htrim] at hstart
  have hbefore : before '/' (front ++ '-' :: (back ++ tail)) = front ++ '-' :: back := by
    have hslash : '/' ∉ front ++ '-' :: back := by simp [hfront.2, hback]
    have hjoin : front ++ '-' :: (back ++ tail) = (front ++ '-' :: back) ++ tail := by simp
    rw [hjoin, before_append hslash, htail.before_eq_nil, List.append_nil]
  rw [ofSource_other harchive, htrim, stripStart_append, Option.bind_some, hbefore,
    cutFirst_append _ hfront.1]

/-- A package source of the archive names the pair, with a pocket or without. -/
theorem ofSource_archive (hseries : '-' ∉ series.toList ∧ '/' ∉ series.toList)
    (hcodename : '/' ∉ codename.toList) (pocket : Option String) (deployed : String) :
    ofSource (archive series codename pocket) deployed = ofPair series codename := by
  cases pocket with
  | none =>
    have htrim : (trim (archive series codename none)).toList = "cloud:".toList ++
        (series.toList ++ '-' :: (dropBlankEnd codename.toList ++ [])) := by
      have hstart : ("cloud:".toList ++ series.toList).dropWhile isBlank =
          "cloud:".toList ++ series.toList := rfl
      rw [trim, String.toList_ofList, List.append_nil, ← List.append_assoc, ← hstart,
        ← trimChars_append_cons (by decide)]
      simp [archive]
    have hback : '/' ∉ dropBlankEnd codename.toList :=
      fun hmem => hcodename ((dropBlankEnd_isPrefix _).subset hmem)
    rw [ofSource_of_trim htrim hseries hback (.inl rfl)]
    refine ofPair_congr (by rw [String.ofList_toList]) ?_
    rw [trim, String.toList_ofList, trimChars_dropBlankEnd, ← trim]
  | some pocket =>
    have htrim : (trim (archive series codename (some pocket))).toList = "cloud:".toList ++
        (series.toList ++ '-' :: (codename.toList ++ '/' :: dropBlankEnd pocket.toList)) := by
      have hstart : ("cloud:".toList ++ (series.toList ++ '-' :: codename.toList)).dropWhile
          isBlank = "cloud:".toList ++ (series.toList ++ '-' :: codename.toList) := rfl
      have hjoin : "cloud:".toList ++
          (series.toList ++ '-' :: (codename.toList ++ '/' :: dropBlankEnd pocket.toList)) =
          ("cloud:".toList ++ (series.toList ++ '-' :: codename.toList)) ++
            '/' :: dropBlankEnd pocket.toList := by simp
      rw [trim, String.toList_ofList, hjoin, ← hstart, ← trimChars_append_cons (by decide)]
      simp [archive]
    rw [ofSource_of_trim htrim hseries hcodename (.inr ⟨_, rfl⟩), String.ofList_toList,
      String.ofList_toList]

/-- A source that is no archive is not supported unless it means the distribution, and neither is
one without a dash where a codename should begin. -/
theorem ofSource_unsupported {source : String} (hsource : ¬ IsDistribution source)
    (h : ¬ "cloud:".toList <+: (trim source).toList ∨ '-' ∉ before '/' (trim source).toList)
    (deployed : String) :
    ofSource source deployed = .error (.unsupportedSource (trim source)) := by
  have hcut : ((stripStart "cloud:".toList (trim source).toList).bind
      fun cloud => cutFirst '-' (before '/' cloud)) = none := by
    cases hstrip : stripStart "cloud:".toList (trim source).toList with
    | none => rfl
    | some cloud =>
      have hcloud := eq_append_of_stripStart hstrip
      have hdash := h.resolve_left (fun hnot => hnot ⟨cloud, hcloud.symm⟩)
      rw [hcloud, before_append (by decide)] at hdash
      rw [Option.bind_some, cutFirst_eq_none]
      exact fun hmem => hdash (List.mem_append_right _ hmem)
  rw [ofSource_other hsource, hcut]

/-- A series and a codename name the same release in all ways, or are complained about in the same
words. There is a release exactly if the pair in normal form is in the table. Then that pair is what
is written of the release, and the release is read back from it, be it as a text or as a document.
Two pairs name one release exactly if their normal forms are equal. Any other package source is not
supported unless it means the distribution. -/
theorem ways_agree {series codename : String}
    (hseries : ∀ c ∈ series.toList, c ≠ '-' ∧ c ≠ '/' ∧ c ≠ '_')
    (hcodename : '/' ∉ codename.toList) :
    (∀ pocket deployed,
      ofSource (archive series codename pocket) deployed = ofPair series codename) ∧
    parse (series ++ "_" ++ codename) = ofPair series codename ∧
    ((∃ release, ofPair series codename = .ok release) ↔
      (normal series, normal codename) ∈ pairs) ∧
    (∀ release, ofPair series codename = .ok release →
      release.text = normal series ++ "_" ++ normal codename ∧
      parse release.text = .ok release ∧
      Json.read shape (Json.Value.string release.text).compact = .ok release ∧
      ∀ text, Json.parse text = .ok (.string release.text) →
        Json.read shape text = .ok release) ∧
    (∀ series' codename' release release', ofPair series codename = .ok release →
      ofPair series' codename' = .ok release' →
      (release = release' ↔
        (normal series, normal codename) = (normal series', normal codename'))) ∧
    ∀ source deployed, ¬ IsDistribution source →
      (¬ "cloud:".toList <+: (trim source).toList ∨
        '-' ∉ before '/' (trim source).toList) →
      ofSource source deployed = .error (.unsupportedSource (trim source)) := by
  have hdash : '-' ∉ series.toList := fun hmem => (hseries _ hmem).1 rfl
  have hslash : '/' ∉ series.toList := fun hmem => (hseries _ hmem).2.1 rfl
  have hline : '_' ∉ series.toList := fun hmem => (hseries _ hmem).2.2 rfl
  refine ⟨fun pocket deployed => ofSource_archive ⟨hdash, hslash⟩ hcodename pocket deployed,
    parse_append hline codename, exists_ofPair_iff, ?_, ?_,
    fun source deployed hsource h => ofSource_unsupported hsource h deployed⟩
  · intro release hrelease
    obtain ⟨hname, hcode⟩ := Prod.mk.inj (ofPair_eq_ok_iff.mp hrelease)
    refine ⟨?_, parse_text release, read_of_parse (parse_compact release), fun text h =>
      read_of_parse h⟩
    rw [text, hname, hcode]
  · intro series' codename' release release' hrelease hrelease'
    rw [← pair_inj, ofPair_eq_ok_iff.mp hrelease, ofPair_eq_ok_iff.mp hrelease']
    rfl

/-- A release of the cloud archive, with blanks and capitals where none would be. -/
theorem ways_agree_spaced :
    (∀ c ∈ " Focal ".toList, c ≠ '-' ∧ c ≠ '/' ∧ c ≠ '_') ∧ '/' ∉ " YOGA ".toList ∧
      ofSource "cloud: Focal - YOGA /proposed" "jammy" = parse "focal_yoga" ∧
      (∃ release, parse " Focal _ YOGA " = .ok release ∧ release.text = "focal_yoga") := by
  have hseries : ∀ c ∈ " Focal ".toList, c ≠ '-' ∧ c ≠ '/' ∧ c ≠ '_' := by simp
  have hcodename : '/' ∉ " YOGA ".toList := by decide
  obtain ⟨hsource, hparse, hfound, htext, -⟩ := ways_agree hseries hcodename
  have hpair : (normal " Focal ", normal " YOGA ") = ("focal", "yoga") := by decide +kernel
  obtain ⟨release, hrelease⟩ := hfound.mpr (by rw [hpair]; decide)
  obtain ⟨hname, hback, -⟩ := htext release hrelease
  have hnormal : release.text = "focal_yoga" := by
    obtain ⟨hfocal, hyoga⟩ := Prod.mk.inj hpair
    rw [hname, hfocal, hyoga]
    decide
  refine ⟨hseries, hcodename, ?_, release, ?_, hnormal⟩
  · have harchive : archive " Focal " " YOGA " (some "proposed") =
        "cloud: Focal - YOGA /proposed" := by decide
    rw [← harchive, hsource, hrelease, ← hback, hnormal]
  · have happend : " Focal " ++ "_" ++ " YOGA " = " Focal _ YOGA " := by decide
    rw [← happend, hparse, hrelease]

end DashboardCheck.Release
