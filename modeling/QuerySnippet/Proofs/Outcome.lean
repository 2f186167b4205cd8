/-
When readers that are put together succeed.
-/
import Mathlib.Data.List.Basic

namespace QuerySnippet.Except

variable {ε ε' α β : Type}

theorem map_eq_ok {f : α → β} {x : Except ε α} {b : β} :
    f <$> x = .ok b ↔ ∃ a, x = .ok a ∧ f a = b := by
  cases x with
  | error e => simp [Functor.map, Except.map]
  | ok a => simp [Functor.map, Except.map]

theorem bind_eq_ok {x : Except ε α} {f : α → Except ε β} {b : β} :
    x >>= f = .ok b ↔ ∃ a, x = .ok a ∧ f a = .ok b := by
  cases x with
  | error e => simp [bind, Except.bind]
  | ok a => simp [bind, Except.bind]

theorem mapError_eq_ok {f : ε → ε'} {x : Except ε α} {a : α} :
    x.mapError f = .ok a ↔ x = .ok a := by
  cases x with
  | error e => simp [Except.mapError]
  | ok b => simp [Except.mapError]

theorem toOption_eq_some_iff {x : Except ε α} {a : α} : x.toOption = some a ↔ x = .ok a := by
  cases x with
  | error e => simp [Except.toOption]
  | ok b => simp [Except.toOption]

theorem mapM_cons_eq_ok {read : β → Except ε α} {b : β} {bs : List β} {as : List α} :
    (b :: bs).mapM read = .ok as ↔
      ∃ a, read b = .ok a ∧ ∃ rest, bs.mapM read = .ok rest ∧ a :: rest = as := by
  rw [List.mapM_cons, bind_eq_ok]
  refine exists_congr fun a => and_congr_right fun _ => bind_eq_ok.trans ?_
  exact exists_congr fun rest => and_congr_right fun _ => ⟨Except.ok.inj, congrArg _⟩

theorem mapM_append_eq_ok {read : β → Except ε α} {bs cs : List β} {as : List α} :
    (bs ++ cs).mapM read = .ok as ↔
      ∃ front, bs.mapM read = .ok front ∧ ∃ back, cs.mapM read = .ok back ∧ front ++ back = as := by
  rw [List.mapM_append, bind_eq_ok]
  refine exists_congr fun front => and_congr_right fun _ => bind_eq_ok.trans ?_
  exact exists_congr fun back => and_congr_right fun _ => ⟨Except.ok.inj, congrArg _⟩

theorem forM_eq_ok_iff {check : β → Except ε Unit} {bs : List β} :
    bs.forM check = .ok () ↔ ∀ b ∈ bs, check b = .ok () := by
  induction bs with
  | nil => exact ⟨fun _ => nofun, fun _ => rfl⟩
  | cons b bs ih =>
    change check b >>= (fun _ => bs.forM check) = _ ↔ _
    rw [List.forall_mem_cons, bind_eq_ok, ← ih]
    exact ⟨fun ⟨_, hb, hbs⟩ => ⟨hb, hbs⟩, fun ⟨hb, hbs⟩ => ⟨(), hb, hbs⟩⟩

/-- What is read item by item is read as a list. -/
theorem mapM_map_of_ok {read : β → Except ε α} {write : α → β} : ∀ {as : List α},
    (∀ a ∈ as, read (write a) = .ok a) → (as.map write).mapM read = .ok as
  | [], _ => rfl
  | a :: as, h => by
    have hrest := mapM_map_of_ok fun a' h' => h a' (List.mem_cons_of_mem a h')
    rw [List.map_cons, List.mapM_cons, h a List.mem_cons_self, hrest]
    rfl

end QuerySnippet.Except
