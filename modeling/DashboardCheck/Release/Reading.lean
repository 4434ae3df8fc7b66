import DashboardCheck.Document.Shape
import DashboardCheck.Release.Basic

/-!
Reading a release from a document.
-/
namespace DashboardCheck.Release

open Document in
/-- A release is written as its text. A text that names none is reported without a place. -/
def shape : Shape Release :=
  fun depth node => do
    match parse (← Shape.text depth node) with
    | .ok release => return release
    | .error e => throw ⟨.other e.message, none⟩

end DashboardCheck.Release
