/-
The text of a type tells what the type is.

A collection is written around the text of its elements. Where the name inside is not
itself written like a collection, taking off what a collection writes, as often as it can
be taken off, leads to the name, and in no other way to another one (`wrapped_inj`). So
the text tells the number of collections and the name inside them (`display_eq_iff`).
-/
import QuerySnippet.Proofs.Edm.Layers

namespace QuerySnippet

/-- Names that are not written like collections can be told apart behind any number of them. -/
theorem wrapped_inj {a b : List Char} (ha : ¬ WrittenAsCollection a)
    (hb : ¬ WrittenAsCollection b) : ∀ {m n : Nat}, wrapped m a = wrapped n b → m = n ∧ a = b
  | 0, 0, h => by
    rw [wrapped_zero, wrapped_zero] at h
    exact ⟨rfl, h⟩
  | 0, n + 1, h => by
    rw [wrapped_zero] at h
    exact absurd (h ▸ writtenAsCollection_wrapped_succ n b) ha
  | m + 1, 0, h => by
    rw [wrapped_zero] at h
    exact absurd (h ▸ writtenAsCollection_wrapped_succ m a) hb
  | m + 1, n + 1, h => by
    rw [wrapped_succ, wrapped_succ] at h
    have hinside : wrapped m a = wrapped n b :=
      List.append_cancel_left (List.append_cancel_right h)
    obtain ⟨hcount, hname⟩ := wrapped_inj ha hb hinside
    exact ⟨congrArg (· + 1) hcount, hname⟩

namespace EdmType

theorem display_eq_iff {s t : EdmType} (hs : ¬ WrittenAsCollection s.innermost.display.toList)
    (ht : ¬ WrittenAsCollection t.innermost.display.toList) :
    s.display = t.display ↔ s.layers = t.layers ∧ s.innermost.display = t.innermost.display := by
  rw [← String.toList_inj, toList_display s, toList_display t, ← String.toList_inj]
  constructor
  · exact wrapped_inj hs ht
  · rintro ⟨hlayers, hname⟩
    rw [hlayers, hname]

/-- The text of a collection is longer than that of its elements. -/
theorem unwrap_display_ne_iff {t : EdmType} :
    t.unwrap.display ≠ t.display ↔ ∃ element, t = .collection element := by
  cases t with
  | collection element =>
    have hlength : (collection element).display.length = element.display.length + 12 := by
      rw [display, String.length_append, String.length_append]
      change 11 + element.display.length + 1 = _
      omega
    have hne : element.display ≠ (collection element).display := by
      intro heq
      rw [← heq] at hlength
      omega
    exact ⟨fun _ => ⟨element, rfl⟩, fun _ => hne⟩
  | structured schema name properties => simp [unwrap, element?]
  | scalar fullName => simp [unwrap, element?]

/-- The name has no parenthesis. -/
def WithoutParentheses (name : String) : Prop := '(' ∉ name.toList ∧ ')' ∉ name.toList

instance (name : String) : Decidable (WithoutParentheses name) :=
  inferInstanceAs (Decidable (_ ∧ _))

/-- **The text of a type can be read back.** Where names have no parentheses, types with the same
text are in the same number of collections and have the same name inside them. Taking a collection
off shows in the text just when there is one. -/
theorem display_tells_layers :
    (∀ s t : EdmType, WithoutParentheses s.innermost.display →
      WithoutParentheses t.innermost.display →
        (s.display = t.display ↔
          s.layers = t.layers ∧ s.innermost.display = t.innermost.display)) ∧
    ∀ t : EdmType, t.unwrap.display ≠ t.display ↔ ∃ element, t = .collection element :=
  ⟨fun _ _ hs ht =>
    display_eq_iff (not_writtenAsCollection hs.1) (not_writtenAsCollection ht.1),
    fun _ => unwrap_display_ne_iff⟩

/-- A structured type and a scalar type of the same name, in two collections and in one. -/
theorem display_tells_layers_of_grid :
    let grid := EdmType.structured "contoso" "grid" [("id", .scalar "Edm.Guid")]
    let named := EdmType.scalar "contoso.grid"
    grid.collection.collection.display = named.collection.collection.display ∧
      grid.collection.collection.display ≠ named.collection.display ∧
      grid.collection.collection.unwrap.display ≠ grid.collection.collection.display := by
  intro grid named
  have hgrid : WithoutParentheses grid.innermost.display := by decide
  have hnamed : WithoutParentheses named.innermost.display := by decide
  obtain ⟨hiff, hunwrap⟩ := display_tells_layers
  refine ⟨(hiff grid.collection.collection named.collection.collection hgrid hnamed).2 ⟨rfl, rfl⟩,
    fun heq => ?_, (hunwrap _).2 ⟨_, rfl⟩⟩
  have hlayers := ((hiff grid.collection.collection named.collection hgrid hnamed).1 heq).1
  exact absurd hlayers (by decide)

/-- A name that is written like a collection can be mistaken for one. -/
example : (scalar "Collection(contoso.grid)").display =
    (scalar "contoso.grid").collection.display := by
  decide

end EdmType

end QuerySnippet
