import FieldTemplate.Console.Table
import FieldTemplate.Proofs.Console.Markup

/-!
# Tables that can be made

A table reads its title and its cells as markup.  It can be made if all of them are legible
(`exists_ofMarkup_of_legible`), and only if their tags are paired (`paired_of_ofMarkup`).
-/

namespace FieldTemplate.Table

set_option autoImplicit false

variable {title : Text} {columns : List Column} {rows : List (List Text)}

/-- A clean text needs no style, whatever its lines are. -/
theorem needsFault_eq_false {s : Markup.Shown} (clean : s.Clean) {lines : List Console.Line}
    (cleanLines : ∀ line ∈ lines, Console.Line.Clean line) : needsFault s lines = false := by
  have unstyled : lines.any (·.any Console.Glyph.faulty) = false := by
    simpa [List.any_eq_false, Console.Line.Clean] using cleanLines
  unfold needsFault
  rw [unstyled, clean.bare]
  split <;> simp

/-- What is clean can be laid out. -/
theorem exists_ofShown {title : Markup.Shown} {rows : List (List Markup.Shown)}
    (cleanTitle : title.Clean) (clean : ∀ row ∈ rows, ∀ cell ∈ row, Markup.Shown.Clean cell) :
    ∃ shown, ofShown title columns rows = .ok shown := by
  rw [ofShown]
  dsimp only
  rw [needsFault_eq_false cleanTitle, if_neg]
  · exact ⟨_, rfl⟩
  · simp only [Bool.false_or, Bool.not_eq_true, List.any_eq_false]
    intro row listed column member
    have cell := clean row listed column.2 (List.of_mem_zip member).2
    exact needsFault_eq_false cell cell.glyphs.wrap
  · intro line member
    obtain ⟨line, wrapped, rfl⟩ := List.mem_map.1 member
    exact (cleanTitle.glyphs.wrap line wrapped).trimRight

/-- **A table that is made has a title and cells with paired tags.** -/
theorem paired_of_ofMarkup [Host] {shown : Text} (made : ofMarkup title columns rows = .ok shown) :
    Markup.Paired title ∧ ∀ row ∈ rows, ∀ cell ∈ row, Markup.Paired cell := by
  rw [ofMarkup] at made
  split at made
  · cases made
  · next cells read =>
    have paired : ∃ cells, (rows.mapM fun row => row.mapM Markup.read) = .ok cells := ⟨cells, read⟩
    simp only [exists_mapM_eq_ok_iff, Markup.exists_read_iff] at paired
    obtain ⟨shownTitle, readTitle, -⟩ := except_bind_eq_ok_iff.1 made
    exact ⟨Markup.exists_read_iff.1 ⟨shownTitle, readTitle⟩, paired⟩

/-- **A table is made when its title and its cells are legible.** -/
theorem exists_ofMarkup_of_legible [Host] (legible : Markup.Legible title)
    (legibles : ∀ row ∈ rows, ∀ cell ∈ row, Markup.Legible cell) :
    ∃ shown, ofMarkup title columns rows = .ok shown := by
  obtain ⟨cells, read⟩ : ∃ cells, (rows.mapM fun row => row.mapM Markup.read) = .ok cells := by
    simp only [exists_mapM_eq_ok_iff, Markup.exists_read_iff]
    exact fun row listed cell member => (legibles row listed cell member).paired
  have clean : ∀ row ∈ cells, ∀ cell ∈ row, Markup.Shown.Clean cell :=
    forall_mem_of_mapM read fun row listed _ made =>
      forall_mem_of_mapM made fun cell member _ => (legibles row listed cell member).clean
  obtain ⟨shownTitle, readTitle⟩ := Markup.exists_read_iff.2 legible.paired
  rw [ofMarkup, read, readTitle]
  exact exists_ofShown (legible.clean readTitle) clean

end FieldTemplate.Table
