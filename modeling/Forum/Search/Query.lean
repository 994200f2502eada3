import Forum.Text.Blank
import Forum.Text.Integer
import Forum.Text.Letters

/-!
# Search queries

A query may start with one criterion; what follows it are words to look for.

* `SearchForm`: the nine criteria, and the query without one;
* `SearchForm.split?`: the argument of a criterion and the words after it;
* `Query.parse`: the first form in the order of `SearchForm.criteria` that a query has.
-/

namespace Forum

/-- The forms of a query. -/
inductive SearchForm where
  | tag
  | author
  | score
  | answerCount
  | accepted
  | hasAccepted
  | isQuestion
  | isAnswer
  | quote
  | plain
deriving DecidableEq, Repr

namespace SearchForm

/-- The forms with a criterion, in the order in which they are tried. -/
def criteria : List SearchForm :=
  [tag, author, score, answerCount, accepted, hasAccepted, isQuestion, isAnswer, quote]

def name : SearchForm → String
  | tag => "tag"
  | author => "author"
  | score => "score"
  | answerCount => "answer_count"
  | accepted => "accepted"
  | hasAccepted => "has_accepted"
  | isQuestion => "is_question"
  | isAnswer => "is_answer"
  | quote => "quote"
  | plain => "object"

def ofName? (s : String) : Option SearchForm := (criteria ++ [plain]).find? (·.name = s)

open Text

/-- What follows an argument that must end there: nothing, or a blank and words. -/
def wordsAfter? : List Char → Option (List Char)
  | [] => some []
  | c :: s => if isBlank c then some (trim s) else none

/-- A keyword and one of some values, matched under case folding. The argument is the value with its
capital letters made small. -/
def keywordValue? (keyword : String) (values : List String) (s : List Char) :
    Option (List Char × List Char) := do
  let s ← matchFolded keyword.toList s
  values.findSome? fun v => do
    let rest ← matchFolded v.toList s
    let words ← wordsAfter? rest
    return ((s.take v.length).map lowerAscii, words)

/-- A keyword and an integer of 64 bits. The argument is the integer's usual text. -/
def keywordNumber? (keyword : String) (withSign : Bool) (s : List Char) :
    Option (List Char × List Char) := do
  let s ← matchFolded keyword.toList s
  let (sign, s) := match withSign, s with
    | true, '-' :: s => (['-'], s)
    | _, s => ([], s)
  let digits := s.takeWhile Char.isDigit
  if digits.isEmpty then none
  else
    let words ← wordsAfter? (s.dropWhile Char.isDigit)
    let n ← Width.int64.read (sign ++ digits)
    return (decimal n, words)

/-- A run of characters that end with the text or with a given one, which is passed over. -/
def nonempty? (p : Char → Bool) (s : List Char) : Option (List Char × List Char) :=
  let e := s.takeWhile p
  if e.isEmpty then none else some (e, s.dropWhile p)

/-- The argument of a criterion at the start of a text without blanks at its ends, and the words
after it. -/
def splitTrimmed? : SearchForm → List Char → Option (List Char × List Char)
  | tag, '[' :: s => do
    let (e, s) ← nonempty? (fun c => c ≠ '[' && c ≠ ']' && !isBlank c) s
    match s with
    | ']' :: s => some (e, trim s)
    | _ => none
  | author, s => do
    let s ← matchFolded "user:".toList s
    let (e, s) ← nonempty? (fun c => !isBlank c) s
    return (e, trim s)
  | score, s => keywordNumber? "score:" true s
  | answerCount, s => keywordNumber? "answers:" false s
  | accepted, s => keywordValue? "isaccepted:" ["yes", "no"] s
  | hasAccepted, s => keywordValue? "hasaccepted:" ["yes", "no"] s
  | isQuestion, s => keywordValue? "is:" ["question"] s
  | isAnswer, s => keywordValue? "is:" ["answer"] s
  | quote, '"' :: s => do
    let (e, s) ← nonempty? (· ≠ '"') s
    match s with
    | _ :: s => some (e, trim s)
    | [] => none
  | plain, s => some ([], s)
  | _, _ => none

/-- The argument of a criterion at the start of a query, and the words after it. -/
def split? (f : SearchForm) (q : String) : Option (String × String) :=
  (f.splitTrimmed? (trim q.toList)).map fun (e, words) => (String.ofList e, String.ofList words)

end SearchForm

/-- A query: its form, the argument of the form, and the words to look for. -/
structure Query where
  form : SearchForm
  arg : String
  words : String
deriving DecidableEq, Repr

/-- The query of a text. -/
def Query.parse (q : String) : Query :=
  (SearchForm.criteria.findSome? fun f => (f.split? q).map fun (a, w) => ⟨f, a, w⟩).getD
    ⟨.plain, "", Text.trimmed q⟩

end Forum
