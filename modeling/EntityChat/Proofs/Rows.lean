/-!
Texts in rows. A text that is put together from rows, with a line break behind each and none in any,
is split at its line breaks into these rows again; so it has as many rows as line breaks, and rows
that differ make texts that differ.
-/

namespace EntityChat

/-- The text consists of the rows. Behind the last line break there is nothing. -/
structure Rows (text : String) (rows : List String) : Prop where
  split : text.toList.splitOn '\n' = rows.map String.toList ++ [[]]
  count : text.toList.count '\n' = rows.length

theorem Rows.unique {text : String} {rows rows' : List String} (h : Rows text rows)
    (h' : Rows text rows') : rows = rows' :=
  List.map_inj_right (fun _ _ => String.toList_inj.mp) |>.mp
    (List.append_cancel_right (h.split.symm.trans h'.split))

section

variable {α β γ δ : Type} {as : List α} {bs : List β}

theorem rows_join {row : α → String} (h : ∀ a ∈ as, '\n' ∉ (row a).toList) :
    Rows (String.join (as.map fun a => row a ++ "\n")) (as.map row) := by
  induction as with
  | nil => exact ⟨rfl, rfl⟩
  | cons a as ih =>
    obtain ⟨ha, has⟩ := List.forall_mem_cons.mp h
    obtain ⟨hsplit, hcount⟩ := ih has
    have htext : (String.join ((a :: as).map fun a => row a ++ "\n")).toList =
        (row a).toList ++ '\n' :: (String.join (as.map fun a => row a ++ "\n")).toList := by
      simp [String.toList_join]
    constructor
    · rw [htext, List.splitOn_append_cons_self_of_not_mem ha, hsplit]
      rfl
    · rw [htext, List.count_append, List.count_eq_zero.mpr ha, List.count_cons_self, hcount]
      simp

theorem map_eq_of_map_eq {f : α → γ} {g : β → γ} {f' : α → δ} {g' : β → δ}
    (h : ∀ a ∈ as, ∀ b ∈ bs, f a = g b → f' a = g' b) (heq : as.map f = bs.map g) :
    as.map f' = bs.map g' := by
  induction as generalizing bs with
  | nil =>
    obtain rfl := List.map_eq_nil_iff.mp heq.symm
    rfl
  | cons a as ih =>
    obtain ⟨b, bs, rfl, hhead, htail⟩ := List.map_eq_cons_iff.mp heq.symm
    rw [List.map_cons, List.map_cons, h a List.mem_cons_self b List.mem_cons_self hhead.symm]
    refine congrArg (g' b :: ·) (ih (fun a ha b hb => ?_) htail.symm)
    exact h a (List.mem_cons_of_mem _ ha) b (List.mem_cons_of_mem _ hb)

theorem join_rows_eq_iff {row : α → String} {row' : β → String} {f : α → γ} {g : β → γ}
    (has : ∀ a ∈ as, '\n' ∉ (row a).toList) (hbs : ∀ b ∈ bs, '\n' ∉ (row' b).toList)
    (h : ∀ a ∈ as, ∀ b ∈ bs, row a = row' b ↔ f a = g b) :
    String.join (as.map fun a => row a ++ "\n") = String.join (bs.map fun b => row' b ++ "\n") ↔
      as.map f = bs.map g := by
  constructor
  · intro heq
    have hrows := rows_join has
    rw [heq] at hrows
    exact map_eq_of_map_eq (fun a ha b hb => (h a ha b hb).mp) (hrows.unique (rows_join hbs))
  · intro heq
    refine congrArg String.join (map_eq_of_map_eq (fun a ha b hb hab => ?_) heq)
    exact congrArg (· ++ "\n") ((h a ha b hb).mpr hab)

end

end EntityChat
