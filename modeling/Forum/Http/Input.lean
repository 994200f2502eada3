import Forum.Action
import Forum.Content
import Forum.Error
import Forum.Search.Filter
import Forum.Text.Percent

/-!
# What requests carry

* `LengthRule`, `LengthFault`, `LengthFault.text`: limits on the lengths of texts, in characters;
* the bodies of requests, each with its reading and its faults;
* `PermissionQuery`, `awardsQuery`: queries that can also be fields of a URL;
* `Form`, with `Form.permissionQuery?`, `awardsQuery?` and `searchRequest?`: the fields of a URL.
-/

namespace Forum

/-- How long a text may be. -/
structure LengthRule where
  field : String
  lo : Nat
  hi : Nat
  message : String

/-- A rule that a text breaks. -/
abbrev LengthFault := LengthRule

namespace LengthRule

/-- The rule, if a text breaks it. -/
def check (r : LengthRule) (s : String) : List LengthFault :=
  if r.lo ≤ s.length ∧ s.length ≤ r.hi then [] else [r]

/-- The faults in words, a line for each, in the order of the lines. -/
def text (fs : List LengthFault) : String :=
  "\n".intercalate
    ((fs.map fun f => f.field ++ ": " ++ f.message).mergeSort fun a b => decide (a ≤ b))

def title : LengthRule := ⟨"title", 6, 150, "标题长度应为 6 到 150"⟩
def content : LengthRule := ⟨"content", 6, 65535, "内容长度应为 6 到 65535"⟩
def questionId : LengthRule := ⟨"question_id", 5, 32, "questionId 格式错误"⟩
def objectId : LengthRule := ⟨"object_id", 5, 32, "objectId 格式错误"⟩
def comment : LengthRule := ⟨"content", 2, 600, "评论长度应为 2 到 600"⟩
def reason : LengthRule := ⟨"reason", 1, 512, "举报原因长度应为 1 到 512"⟩
def action : LengthRule := ⟨"action", 1, 1024, "action 不能为空"⟩

end LengthRule

open Json Decoder

/-- A question as it is asked or edited. -/
structure QuestionInput where
  title : String
  content : String

namespace QuestionInput

def record : Record QuestionInput :=
  (Record.ofFunction QuestionInput.mk).required "title" string |>.required "content" string

def faults (i : QuestionInput) : List LengthFault :=
  LengthRule.title.check i.title ++ LengthRule.content.check i.content

end QuestionInput

/-- An answer to a question. -/
structure AnswerInput where
  questionId : String
  content : String

namespace AnswerInput

def record : Record AnswerInput :=
  (Record.ofFunction AnswerInput.mk).required "questionId" string |>.required "content" string

def faults (i : AnswerInput) : List LengthFault :=
  LengthRule.questionId.check i.questionId ++ LengthRule.content.check i.content

end AnswerInput

/-- The new text of an answer. -/
structure AnswerEdit where
  content : String

namespace AnswerEdit

def record : Record AnswerEdit := (Record.ofFunction AnswerEdit.mk).required "content" string

def faults (i : AnswerEdit) : List LengthFault := LengthRule.content.check i.content

end AnswerEdit

/-- A comment on a question or an answer. -/
structure CommentInput where
  objectId : String
  content : String

namespace CommentInput

def record : Record CommentInput :=
  (Record.ofFunction CommentInput.mk).required "objectId" string |>.required "content" string

def faults (i : CommentInput) : List LengthFault :=
  LengthRule.objectId.check i.objectId ++ LengthRule.comment.check i.content

end CommentInput

/-- A report on an object. -/
structure ReportInput where
  objectId : String
  reason : String

namespace ReportInput

def record : Record ReportInput :=
  (Record.ofFunction ReportInput.mk).required "objectId" string |>.required "reason" string

def faults (i : ReportInput) : List LengthFault :=
  LengthRule.objectId.check i.objectId ++ LengthRule.reason.check i.reason

end ReportInput

/-- The object of a vote. -/
structure VoteInput where
  objectId : String

namespace VoteInput

def record : Record VoteInput := (Record.ofFunction VoteInput.mk).required "objectId" string

def faults (i : VoteInput) : List LengthFault := LengthRule.objectId.check i.objectId

end VoteInput

/-- The new status of a question. -/
def statusInput : Record QuestionStatus :=
  (Record.ofFunction id).required "status" QuestionStatus.decoder

/-- Whether a question is to be pinned. -/
def pinInput : Record Bool := (Record.ofFunction id).required "pinned" bool

/-- A question about permissions: actions between commas, and perhaps an object. -/
structure PermissionQuery where
  action : String
  objectId : Option String

namespace PermissionQuery

def record : Record PermissionQuery :=
  (Record.ofFunction PermissionQuery.mk).required "action" string
    |>.defaulted "objectId" (nullable string) none

def faults (q : PermissionQuery) : List LengthFault := LengthRule.action.check q.action

/-- The names between the commas; empty ones do not count. -/
def names (q : PermissionQuery) : List String :=
  (((q.action.toList.splitOn ',').map Text.trim).filter (!·.isEmpty)).map String.ofList

/-- The actions named, or the first name that is none. -/
def actions (q : PermissionQuery) : Except ServiceError (List Action) :=
  q.names.mapM fun n =>
    match Action.ofName? n with
    | some a => .ok a
    | none => .error (.unknownAction n)

/-- The object asked about, or the empty text. -/
def object (q : PermissionQuery) : String := q.objectId.getD ""

end PermissionQuery

/-- Whose awards are asked for: nobody named means the user who asks. -/
def awardsQuery : Record (Option String) := (Record.ofFunction id).optional "userId" string

/-! ## Fields of a URL -/

/-- The fields of a form. -/
abbrev Form := List (String × String)

namespace Form

/-- The value of a field, if it comes once; none of the reading if it comes twice. -/
def single? (f : Form) (name : String) : Option (Option String) :=
  match f.filter (·.1 = name) with
  | [] => some none
  | [(_, v)] => some (some v)
  | _ => none

/-- A field with a value of its own when it is missing. -/
def field? {α : Type} (f : Form) (name : String) (read : String → Option α) (absent : α) :
    Option α := do
  match ← f.single? name with
  | some v => read v
  | none => some absent

/-- The question about permissions in a form. -/
def permissionQuery? (f : Form) : Option PermissionQuery := do
  return ⟨← (← f.single? "action"), ← f.single? "objectId"⟩

/-- The user whose awards are asked for in a form. -/
def awardsQuery? (f : Form) : Option (Option String) := f.single? "userId"

/-- The search in a form. -/
def searchRequest? (f : Form) : Option SearchRequest := do
  let number (s : String) := Text.Width.nat32.read s.toList
  return ⟨← (← f.single? "q"), ← f.field? "page" number 1, ← f.field? "size" number 20,
    ← f.field? "order" SearchOrder.ofName? .relevance⟩

end Form

end Forum
