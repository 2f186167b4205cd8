/-
Tables of expressions come back from JSON as they were.

Of a template only the text is written, and its parts are found again when it is read: the
text of a template is a template for as many arguments, with the same parts
(`readTemplate_text`).
-/
import QuerySnippet.Proofs.Expressions.Table

namespace QuerySnippet.Expressions

theorem read_toDocument (e : Expressions) : record.read e.toDocument = .ok e := by
  have htemplate {n : Nat} (t : Template n) :
      (Document.text t.source).readTemplate n = .ok t := readTemplate_text.2 rfl
  exact Record.ofMembers_of_written (by decide)
    (.cons (Field.read_of (htemplate e.header))
      (.cons (Field.read_of (htemplate e.filter))
        (.cons (Field.read_of (htemplate e.search))
          (.cons (Field.read_of (htemplate e.expand))
            (.cons (Field.read_of (htemplate e.select))
              (.cons (Field.read_of (htemplate e.orderBy))
                (.cons (Field.read_of (htemplate e.skip))
                  (.cons (Field.read_of (htemplate e.skipToken))
                    (.cons (Field.read_of (htemplate e.top))
                      (.cons (Field.read_of rfl) (.cons (Field.read_of rfl)
                        (.cons (Field.read_of rfl) (.cons (Field.read_of rfl) .nil)))))))))))))
    (Draft.finish_eq_ok_iff.2 rfl)

theorem plain_toDocument (e : Expressions) : e.toDocument.Plain := by
  simp [toDocument, Document.Plain, Document.PlainMembers]

/-- **A table comes back from its JSON text.** -/
theorem ofJson_toJson_table (e : Expressions) : ofJson e.toJson = .ok e :=
  Json.decode_write e.plain_toDocument e.read_toDocument

end QuerySnippet.Expressions
