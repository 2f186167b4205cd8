/-
Requests come back from JSON as they were.

Headers are an object in which the order of the members counts and a name may
stand twice, so they are read by themselves; the rest is records of lists,
texts and 64-bit words, where nothing and the empty text are different.
-/
import QuerySnippet.Proofs.Document.Record
import QuerySnippet.Proofs.Json.RoundTrip
import QuerySnippet.Request.Json

namespace QuerySnippet

/-! ## Values -/

namespace Document

theorem readList_ofTexts (texts : List String) :
    (ofTexts texts).readList readText = .ok texts :=
  readList_array fun _ _ => rfl

theorem readOptional_ofOption {α : Type} {read : Document → Except Fault α} (write : α → Document)
    (hread : ∀ a, read (write a) = .ok a) (hnull : ∀ a, write a ≠ null) (value : Option α) :
    (ofOption write value).readOptional read = .ok value := by
  cases value with
  | none => rfl
  | some a =>
    have hsome : (write a).readOptional read = some <$> read (write a) := by
      cases h : write a with
      | null => exact absurd h (hnull a)
      | _ => rfl
    rw [ofOption, hsome, hread]
    rfl

theorem readOptional_text (value : Option String) :
    (ofOption text value).readOptional readText = .ok value :=
  readOptional_ofOption text (fun _ => rfl) (fun _ => nofun) value

theorem readWord_ofWord (n : UInt64) : (ofWord n).readWord = .ok n := by
  rw [ofWord, readWord, if_pos (Number.fitsUnsigned_toNat n), Int.toNat_natCast, UInt64.ofNat_toNat]

theorem readOptional_word (value : Option UInt64) :
    (ofOption ofWord value).readOptional readWord = .ok value :=
  readOptional_ofOption ofWord readWord_ofWord (fun _ => nofun) value

theorem plain_ofTexts (texts : List String) : (ofTexts texts).Plain := by
  rw [ofTexts, Plain, plainItems_iff]
  simp [Plain]

theorem plain_ofOption {α : Type} (write : α → Document) (h : ∀ a, (write a).Plain)
    (value : Option α) : (ofOption write value).Plain := by
  cases value with
  | none => trivial
  | some a => exact h a

end Document

/-! ## Headers -/

/-- Headers are read as they are written: in order, repeated and empty ones too. -/
theorem Headers.read_toDocument (h : Headers) : read h.toDocument = .ok h := by
  rw [toDocument, read, Except.mapM_map_of_ok]
  · rfl
  · rintro ⟨name, values⟩ -
    change (do pure (name, ← (Document.ofTexts values).readList Document.readText)) = _
    rw [Document.readList_ofTexts]
    rfl

theorem Headers.plain_toDocument (h : Headers) : h.toDocument.Plain := by
  rw [toDocument, Document.Plain, Document.plainMembers_iff]
  intro member hmem
  obtain ⟨⟨name, values⟩, -, rfl⟩ := List.mem_map.1 hmem
  exact Document.plain_ofTexts values

/-! ## Requests -/

theorem Paging.read_toDocument (p : Paging) : record.read p.toDocument = .ok p :=
  Record.ofMembers_of_written (by decide)
    (.cons (Field.read_of (Document.readOptional_word p.skip))
      (.cons (Field.read_of (Document.readOptional_text p.skipToken))
        (.cons (Field.read_of (Document.readOptional_word p.top)) .nil))) rfl

namespace Request

theorem read_toDocument (r : Request) : record.read r.toDocument = .ok r :=
  Record.ofMembers_of_written (by decide)
    (.cons (Field.read_of r.headers.read_toDocument)
      (.cons (Field.read_of (Document.readList_ofTexts r.filter))
        (.cons (Field.read_of (Document.readList_ofTexts r.expand))
          (.cons (Field.read_of (Document.readList_ofTexts r.select))
            (.cons (Field.read_of (Document.readList_ofTexts r.orderBy))
              (.cons (Field.read_of (Document.readOptional_text r.searchExpression))
                (.cons (Field.read_of r.paging.read_toDocument) .nil))))))) rfl

theorem plain_toDocument (r : Request) : r.toDocument.Plain := by
  have hskip := Document.plain_ofOption .ofWord Number.fits64_toNat r.paging.skip
  have htop := Document.plain_ofOption .ofWord Number.fits64_toNat r.paging.top
  have htoken := Document.plain_ofOption .text (fun _ => trivial) r.paging.skipToken
  have hsearch := Document.plain_ofOption .text (fun _ => trivial) r.searchExpression
  exact ⟨r.headers.plain_toDocument, Document.plain_ofTexts _, Document.plain_ofTexts _,
    Document.plain_ofTexts _, Document.plain_ofTexts _, hsearch, ⟨hskip, htoken, htop, trivial⟩,
    trivial⟩

/-- **A request comes back from its JSON text.** -/
theorem ofJson_toJson (r : Request) : ofJson r.toJson = .ok r :=
  Json.decode_write r.plain_toDocument r.read_toDocument

end Request

end QuerySnippet
