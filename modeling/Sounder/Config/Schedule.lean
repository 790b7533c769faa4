import Sounder.Basic

/-!
# Sounder - Slot schedules

A frame schedule is a string with one role letter per slot.  The constructor
turns each frame into one table per role (the slot indices where the role
appears), and the slot queries of {lit}`Config` search those tables.  This
module gives the table builder and the facts about it that the queries rely on:
the table of a role lists exactly the slots holding that role, it is as long as
the role's count, and the position of a slot inside it is the number of earlier
slots with the same role.

Main results:

- Theorem {lit}`mem_symbolSlots`: a slot is listed exactly when it holds the role.
- Theorem {lit}`length_symbolSlots`: the table is as long as the role's count.
- Theorem {lit}`indexOf?_symbolSlots`: searching the table for a slot finds it
  exactly when the slot holds the role, at the ordinal counted in the frame.
-/

namespace Sounder

/-- A frame schedule string, {lit}`std::string`, one role letter per slot. -/
abbrev Frame := List Char

/-! ## Role tables -/

/-- The slot indices of one role in one frame, in increasing order: the inner
loop of {lit}`Utils::loadSymbols`. -/
def symbolSlots (sym : Char) (frame : Frame) : List Nat :=
  (List.range frame.length).filter (fun g => frame[g]? == some sym)

/-- Modelled from the spec: {lit}`Utils::loadSymbols` is not in the source.  For
each frame, the ordered list of slot indices where the role {lean}`sym`
appears. -/
def loadSymbols (frames : List Frame) (sym : Char) : List (List Nat) :=
  frames.map (symbolSlots sym)

@[simp]
theorem length_loadSymbols (frames : List Frame) (sym : Char) :
    (loadSymbols frames sym).length = frames.length :=
  List.length_map _ _

@[simp]
theorem getElem?_loadSymbols (frames : List Frame) (sym : Char) (i : Nat) :
    (loadSymbols frames sym)[i]? = frames[i]?.map (symbolSlots sym) :=
  List.getElem?_map _ _ _

/-- A slot is listed exactly when it holds the role. -/
theorem mem_symbolSlots {sym : Char} {frame : Frame} {g : Nat} :
    g ∈ symbolSlots sym frame ↔ frame[g]? = some sym := by
  unfold symbolSlots
  simp only [List.mem_filter, List.mem_range, beq_iff_eq, and_iff_right_iff_imp]
  intro h
  exact (List.getElem?_eq_some_iff.mp h).1

/-- Tables of concatenated frames: the second frame's slots are shifted by the
first frame's length. -/
theorem symbolSlots_append (sym : Char) (l₁ l₂ : Frame) :
    symbolSlots sym (l₁ ++ l₂) =
      symbolSlots sym l₁ ++ (symbolSlots sym l₂).map (l₁.length + ·) := by
  unfold symbolSlots
  rw [List.length_append, List.range_add, List.filter_append, List.filter_map]
  congr 1
  · apply List.filter_congr
    intro g hg
    rw [List.getElem?_append_left (List.mem_range.mp hg)]
  · congr 1
    apply List.filter_congr
    intro g _
    simp [List.getElem?_append_right]

@[simp]
theorem symbolSlots_nil (sym : Char) : symbolSlots sym [] = [] :=
  rfl

/-- The table of a one-slot frame. -/
theorem symbolSlots_singleton (sym c : Char) :
    symbolSlots sym [c] = if c = sym then [0] else [] := by
  by_cases h : c = sym <;> simp [symbolSlots, h, List.range_succ]

/-- The table is as long as the number of slots holding the role. -/
theorem length_symbolSlots (sym : Char) (frame : Frame) :
    (symbolSlots sym frame).length = frame.count sym := by
  induction frame with
  | nil => rfl
  | cons c cs ih =>
    rw [← List.singleton_append, symbolSlots_append, symbolSlots_singleton]
    by_cases h : c = sym <;> simp [h, ih, List.count_cons]

/-- Searching a role table for a slot finds it exactly when the slot holds the
role, and the position found is the number of earlier slots with that role. -/
theorem indexOf?_symbolSlots (sym : Char) (frame : Frame) (p : Nat) :
    (symbolSlots sym frame).indexOf? p =
      if frame[p]? = some sym then some ((frame.take p).count sym) else none := by
  split
  · rename_i hp
    have hlt : p < frame.length := (List.getElem?_eq_some_iff.mp hp).1
    obtain ⟨c, rest, hdrop⟩ : ∃ c rest, frame.drop p = c :: rest := by
      cases h : frame.drop p with
      | nil => simp [List.drop_eq_nil_iff] at h; omega
      | cons c rest => exact ⟨c, rest, rfl⟩
    have hc : c = sym := by
      have := List.getElem?_drop frame p 0
      simp_all
    have hsplit := List.take_append_drop p frame
    rw [hdrop] at hsplit
    conv_lhs => rw [← hsplit]
    rw [symbolSlots_append, ← List.singleton_append, symbolSlots_append,
      symbolSlots_singleton, if_pos hc, List.length_take_of_le hlt.le]
    have hfirst : (symbolSlots sym (frame.take p)).indexOf? p = none := by
      rw [List.indexOf?_eq_none_iff]
      intro g hg
      have := (List.getElem?_eq_some_iff.mp (mem_symbolSlots.mp hg)).1
      simp at this ⊢
      omega
    simp only [List.indexOf?, List.findIdx?_append] at hfirst ⊢
    simp [hfirst, length_symbolSlots]
  · rename_i hp
    rw [List.indexOf?_eq_none_iff]
    intro g hg heq
    simp only [beq_iff_eq] at heq
    exact hp (heq ▸ mem_symbolSlots.mp hg)

/-- An ordinal found in a role table is below the role's count. -/
theorem indexOf?_symbolSlots_lt {sym : Char} {frame : Frame} {p k : Nat}
    (h : (symbolSlots sym frame).indexOf? p = some k) : k < frame.count sym := by
  rw [← length_symbolSlots]
  exact (List.findIdx?_eq_some_iff_getElem.mp h).1

end Sounder
