import ReactionLedger.Failure
import ReactionLedger.Summary
import ReactionLedger.Text.Utf8
import ReactionLedger.Time.Exchange

set_option autoImplicit false

namespace ReactionLedger

namespace Value

def bytesText (bytes : List UInt8) : Except Failure Value :=
  match Text.Utf8.fault? bytes with
  | some f => .error (.undecodable f.message)
  | none => .ok (.text (String.ofList (Text.Utf8.lossy bytes)))

mutual

def document : Value → Except Failure Value
  | .stamp s => .ok (.text s.exchangeText)
  | .date d => .ok (.text (String.ofList d.text))
  | .uuid u => .ok (.text u.text)
  | .bytes b => bytesText b
  | .double x => .ok (if x.isFinite then .double x else .null)
  | .list items => (documents items).map .list
  | .record fields => (fieldDocuments fields).map .record
  | v => .ok v

def documents : List Value → Except Failure (List Value)
  | [] => .ok []
  | v :: vs => do return (← document v) :: (← documents vs)

def fieldDocuments : List (String × Value) → Except Failure (List (String × Value))
  | [] => .ok []
  | (name, v) :: fields => do return (name, ← document v) :: (← fieldDocuments fields)

end

end Value

def documentOf (fields : Fields) : Except Failure Fields := Value.fieldDocuments fields

def User.document (u : User) : Fields := u.fields

def TypeSummary.document (s : TypeSummary) : Fields :=
  [(Field.label, .text s.label), (Field.first, .text s.first.exchangeText),
    (Field.users, .list (s.users.map fun u => .record u.document))]

def CommentSummary.document (s : CommentSummary) : Fields :=
  s.toTypeSummary.document ++ [(Field.comment, .text s.comment.text)]

theorem User.documentOf_fields (u : User) : documentOf u.fields = .ok u.document := rfl

theorem documents_users (users : List User) :
    Value.documents (users.map fun u => .record u.fields) =
      .ok (users.map fun u => .record u.document) := by
  induction users with
  | nil => rfl
  | cons u users ih =>
    rw [List.map_cons, Value.documents, ih]
    rfl

theorem TypeSummary.documentOf_fields (s : TypeSummary) :
    documentOf s.fields = .ok s.document := by
  simp only [documentOf, TypeSummary.fields, Value.fieldDocuments, Value.document, documents_users]
  rfl

theorem CommentSummary.documentOf_fields (s : CommentSummary) :
    documentOf s.fields = .ok s.document := by
  simp only [documentOf, CommentSummary.fields, TypeSummary.fields, List.cons_append,
    List.nil_append, Value.fieldDocuments, Value.document, documents_users]
  rfl

end ReactionLedger
