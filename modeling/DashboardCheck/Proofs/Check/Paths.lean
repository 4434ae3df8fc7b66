import DashboardCheck.Check.Certificate

/-!
# Names in paths

A path ends with a name if nothing but slashes and dots for the same directory stands behind that
name. Such a name leads nowhere else: a path with one more name behind it leads into the directory
that it led to before.
-/
namespace DashboardCheck

open Text

namespace Text

variable {sep : Char}

theorem pieces_cons_sep (rest : List Char) : pieces sep (sep :: rest) = [] :: pieces sep rest := by
  rw [pieces, if_pos rfl]

/-- A character that is no separator belongs to the first piece. -/
theorem pieces_cons_other {c : Char} (h : c ≠ sep) {rest piece : List Char}
    {more : List (List Char)} (hrest : pieces sep rest = piece :: more) :
    pieces sep (c :: rest) = (c :: piece) :: more := by
  rw [pieces, if_neg h, hrest]

theorem exists_pieces_cons (sep : Char) (cs : List Char) :
    ∃ piece more, pieces sep cs = piece :: more := by
  induction cs with
  | nil => exact ⟨[], [], rfl⟩
  | cons c rest ih =>
    obtain ⟨piece, more, hrest⟩ := ih
    by_cases h : c = sep
    · exact ⟨[], pieces sep rest, by rw [h, pieces_cons_sep]⟩
    · exact ⟨c :: piece, more, pieces_cons_other h hrest⟩

theorem pieces_append_sep (a b : List Char) :
    pieces sep (a ++ sep :: b) = pieces sep a ++ pieces sep b := by
  induction a with
  | nil => rw [List.nil_append, pieces_cons_sep]; rfl
  | cons c rest ih =>
    rw [List.cons_append]
    by_cases h : c = sep
    · subst h
      rw [pieces_cons_sep, pieces_cons_sep, ih, List.cons_append]
    · obtain ⟨piece, more, hrest⟩ := exists_pieces_cons sep rest
      have happend : pieces sep (rest ++ sep :: b) = piece :: (more ++ pieces sep b) := by
        rw [ih, hrest, List.cons_append]
      rw [pieces_cons_other h happend, pieces_cons_other h hrest, List.cons_append]

theorem pieces_of_not_mem {cs : List Char} (h : sep ∉ cs) : pieces sep cs = [cs] := by
  induction cs with
  | nil => rfl
  | cons c rest ih =>
    rw [List.mem_cons, not_or] at h
    exact pieces_cons_other (Ne.symm h.1) (ih h.2)

/-- A piece has no separator in it, and it stands behind the pieces before it and before those
behind it. -/
theorem split_of_pieces {cs piece : List Char} {earlier later : List (List Char)}
    (h : pieces sep cs = earlier ++ piece :: later) :
    sep ∉ piece ∧ cs = earlier.flatMap (· ++ [sep]) ++ piece ++ later.flatMap (sep :: ·) := by
  induction cs generalizing earlier piece later with
  | nil =>
    obtain ⟨rfl, hpiece⟩ := List.append_eq_singleton_iff.mp h.symm |>.resolve_right (by simp)
    obtain ⟨rfl, rfl⟩ := List.cons.inj hpiece
    simp
  | cons c rest ih =>
    by_cases hc : c = sep
    · subst hc
      rw [pieces_cons_sep] at h
      cases earlier with
      | nil =>
        obtain ⟨rfl, rfl⟩ := List.cons.inj h
        obtain ⟨first, more, hrest⟩ := exists_pieces_cons c rest
        obtain ⟨-, hsplit⟩ := @ih _ [] _ hrest
        rw [hrest]
        simpa using hsplit
      | cons first earlier =>
        obtain ⟨rfl, hrest⟩ := List.cons.inj h
        obtain ⟨hnot, hsplit⟩ := ih hrest
        exact ⟨hnot, by simpa using hsplit⟩
    · obtain ⟨first, more, hrest⟩ := exists_pieces_cons sep rest
      rw [pieces_cons_other hc hrest] at h
      cases earlier with
      | nil =>
        obtain ⟨rfl, rfl⟩ := List.cons.inj h
        obtain ⟨hnot, hsplit⟩ := @ih _ [] _ hrest
        exact ⟨by simp [hnot, Ne.symm hc], by simpa using hsplit⟩
      | cons head earlier =>
        obtain ⟨rfl, rfl⟩ := List.cons.inj h
        obtain ⟨hnot, hsplit⟩ := @ih _ (first :: earlier) _ hrest
        exact ⟨hnot, by simpa using hsplit⟩

end Text

/-- A name that stands for a thing of its own in a directory. -/
structure IsPlainName (name : String) : Prop where
  nonempty : name ≠ ""
  whole : '/' ∉ name.toList
  notHere : name ≠ "."
  notUp : name ≠ ".."

/-- What may stand behind the last name of a path: slashes, and dots for the same directory. -/
inductive IsTrail : List Char → Prop
  | nil : IsTrail []
  | slash {rest : List Char} : IsTrail rest → IsTrail ('/' :: rest)
  | here {rest : List Char} : IsTrail rest → IsTrail ('/' :: '.' :: rest)

/-- A path ends with this name: it begins with it or has a slash before it. -/
def EndsWithName (path name : String) : Prop :=
  IsPlainName name ∧ ∃ front trail, path.toList = front ++ name.toList ++ trail ∧
    (front = [] ∨ ∃ more, front = more ++ ['/']) ∧ IsTrail trail

theorem IsTrail.pieces {trail : List Char} (h : IsTrail trail) {cs : List Char} (hcs : '/' ∉ cs) :
    ∃ more, pieces '/' (cs ++ trail) = cs :: more ∧ ∀ piece ∈ more, piece = [] ∨ piece = ['.'] := by
  induction h generalizing cs with
  | nil => exact ⟨[], by rw [List.append_nil, pieces_of_not_mem hcs], by simp⟩
  | @slash rest _ ih =>
    obtain ⟨more, hrest, hmore⟩ := @ih [] (by simp)
    refine ⟨[] :: more, ?_, by simpa using hmore⟩
    rw [pieces_append_sep, pieces_of_not_mem hcs, ← hrest]
    rfl
  | @here rest _ ih =>
    obtain ⟨more, hrest, hmore⟩ := @ih ['.'] (by decide)
    refine ⟨['.'] :: more, ?_, by simpa using hmore⟩
    rw [pieces_append_sep, pieces_of_not_mem hcs, ← hrest]
    rfl

theorem isTrail_flatMap {more : List (List Char)} (h : ∀ piece ∈ more, piece = [] ∨ piece = ['.']) :
    IsTrail (more.flatMap ('/' :: ·)) := by
  induction more with
  | nil => exact .nil
  | cons piece more ih =>
    obtain ⟨hpiece, hmore⟩ := List.forall_mem_cons.mp h
    rcases hpiece with rfl | rfl
    · exact .slash (ih hmore)
    · exact .here (ih hmore)

def isName (part : String) : Bool := part != "" && part != "."

theorem fileName?_eq (path : String) :
    fileName? path =
      (((pieces '/' path.toList).map String.ofList).filter isName).getLast?.filter (· != "..") :=
  rfl

theorem isName_eq_false_iff {piece : List Char} :
    isName (String.ofList piece) = false ↔ piece = [] ∨ piece = ['.'] := by
  simp only [isName, Bool.and_eq_false_iff, bne_eq_false_iff_eq, String.ext_iff,
    String.toList_ofList]
  rfl

theorem IsPlainName.isName {name : String} (h : IsPlainName name) : isName name = true := by
  simp [DashboardCheck.isName, h.nonempty, h.notHere]

/-- The name that is found is the one that the path ends with. -/
theorem fileName?_eq_some_iff {path name : String} :
    fileName? path = some name ↔ EndsWithName path name := by
  rw [fileName?_eq, Option.filter_eq_some_iff, List.getLast?_eq_some_iff]
  constructor
  · rintro ⟨⟨names, hnames⟩, hup⟩
    obtain ⟨front, back, hparts, -, hback⟩ := List.filter_eq_append_iff.mp hnames
    obtain ⟨between, trail, rfl, -, hname, htrail⟩ := List.filter_eq_cons_iff.mp hback
    have hpieces : pieces '/' path.toList =
        (front ++ between).map String.toList ++ name.toList :: trail.map String.toList := by
      simpa [Function.comp_def] using congrArg (List.map String.toList) hparts
    obtain ⟨hwhole, hsplit⟩ := split_of_pieces hpieces
    have htrail' : ∀ piece ∈ trail.map String.toList, piece = [] ∨ piece = ['.'] := by
      intro piece hpiece
      obtain ⟨part, hpart, rfl⟩ := List.mem_map.mp hpiece
      rw [← isName_eq_false_iff, String.ofList_toList]
      exact Bool.eq_false_iff.mpr (List.filter_eq_nil_iff.mp htrail part hpart)
    have hplain : name ≠ "" ∧ name ≠ "." := by simpa [isName] using hname
    refine ⟨⟨hplain.1, hwhole, hplain.2, by simpa using hup⟩, _, _, hsplit, ?_,
      isTrail_flatMap htrail'⟩
    rcases List.eq_nil_or_concat ((front ++ between).map String.toList)
      with hnone | ⟨more, last, hmore⟩
    · exact .inl (by rw [hnone]; rfl)
    · refine .inr ⟨more.flatMap (· ++ ['/']) ++ last, ?_⟩
      rw [hmore]
      simp
  · rintro ⟨hname, front, trail, hpath, hfront, htrail⟩
    obtain ⟨more, hpieces, hmore⟩ := htrail.pieces hname.whole
    obtain ⟨earlier, hall⟩ :
        ∃ earlier, pieces '/' path.toList = earlier ++ name.toList :: more := by
      rw [hpath, List.append_assoc]
      rcases hfront with rfl | ⟨before, rfl⟩
      · exact ⟨[], by rw [List.nil_append, hpieces, List.nil_append]⟩
      · refine ⟨pieces '/' before, ?_⟩
        rw [List.append_assoc, List.singleton_append, pieces_append_sep, hpieces]
    have hnone : (more.map String.ofList).filter isName = [] := by
      rw [List.filter_eq_nil_iff]
      intro part hpart
      obtain ⟨piece, hpiece, rfl⟩ := List.mem_map.mp hpart
      exact Bool.eq_false_iff.mp (isName_eq_false_iff.mpr (hmore piece hpiece))
    refine ⟨⟨(earlier.map String.ofList).filter isName, ?_⟩, by simpa using hname.notUp⟩
    rw [hall, List.map_append, List.map_cons, String.ofList_toList, List.filter_append,
      List.filter_cons_of_pos hname.isName, hnone]

/-- The name of a copy is that of the file, if its path ends with one. -/
theorem Certificate.copyName_eq {path name : String} (h : EndsWithName path name) :
    copyName path = name := by
  rw [copyName, fileName?_eq_some_iff.mpr h, Option.getD_some]

theorem Certificate.copyName_other {path : String} (h : ∀ name, ¬ EndsWithName path name) :
    copyName path = "ca.crt" := by
  have hnone : fileName? path = none :=
    Option.eq_none_iff_forall_ne_some.mpr fun name hname => h name (fileName?_eq_some_iff.mp hname)
  rw [copyName, hnone, Option.getD_none]

/-- Whatever the path, a copy has a name of its own. -/
theorem Certificate.isPlainName_copyName (path : String) : IsPlainName (copyName path) := by
  by_cases h : ∃ name, EndsWithName path name
  · obtain ⟨name, hname⟩ := h
    rw [copyName_eq hname]
    exact hname.1
  · rw [copyName_other (not_exists.mp h)]
    exact ⟨by decide, by decide, by decide, by decide⟩

namespace Disk

variable {disk : Disk} {target : Place} {name : String}

/-- A path that ends in a plain name leads to an entry of that name in the place the rest leads to.
-/
theorem walk_name (hname : IsPlainName name) {place : Place} {parts : List String}
    (h : disk.walk place (parts ++ [name]) = .ok target) :
    ∃ directory, disk.walk place parts = .ok directory ∧ target = directory ++ [name] := by
  induction parts generalizing place with
  | nil =>
    refine ⟨place, rfl, ?_⟩
    rw [List.nil_append, walk] at h
    split at h
    · cases h
    · cases h
    · rw [if_neg (by simp [hname.nonempty, hname.notHere]), if_neg hname.notUp] at h
      split at h
      · cases h
      · exact (Except.ok.inj h).symm
  | cons part rest ih =>
    rw [List.cons_append, walk] at h
    rw [walk]
    split at h
    · cases h
    · cases h
    · split at h
      · next hstay => rw [if_pos hstay]; exact ih h
      · next hstay =>
        rw [if_neg hstay]
        split at h
        · next hup => rw [if_pos hup]; exact ih h
        · next hup =>
          rw [if_neg hup]
          split at h
          · cases h
          · next hshort => rw [if_neg hshort]; exact ih h

/-- A path with one more name behind it leads into the directory of the path before. -/
theorem resolve_name (hname : IsPlainName name) {directory : String} (hdirectory : directory ≠ "")
    (h : disk.resolve (directory ++ "/" ++ name) = .ok target) :
    ∃ place, disk.resolve directory = .ok place ∧ target = place ++ [name] := by
  have hlist : (directory ++ "/" ++ name).toList = directory.toList ++ '/' :: name.toList := by simp
  have hsize : directory.utf8ByteSize ≤ (directory ++ "/" ++ name).utf8ByteSize := by simp; omega
  have hparts : (pieces '/' (directory ++ "/" ++ name).toList).map String.ofList =
      (pieces '/' directory.toList).map String.ofList ++ [name] := by
    rw [hlist, pieces_append_sep, pieces_of_not_mem hname.whole, List.map_append,
      List.map_singleton, String.ofList_toList]
  have hhead : (directory ++ "/" ++ name).toList.head? = directory.toList.head? := by
    rw [hlist]
    cases hchars : directory.toList with
    | nil => exact absurd (String.toList_eq_nil_iff.mp hchars) hdirectory
    | cons c rest => rfl
  rw [resolve] at h ⊢
  split at h
  · cases h
  · next hnul =>
    split at h
    · cases h
    · split at h
      · cases h
      · next hlong =>
        have hnul' : ¬ directory.toList.contains '\x00' = true := by
          intro hmem
          rw [List.contains_iff_mem] at hmem
          exact hnul (by rw [List.contains_iff_mem, hlist]; exact List.mem_append_left _ hmem)
        rw [if_neg hnul', if_neg (by simpa using hdirectory), if_neg (by omega)]
        dsimp only at h ⊢
        rw [hparts, hhead] at h
        exact walk_name hname h

end Disk

end DashboardCheck
