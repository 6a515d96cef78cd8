import MemoryLab.Library.Regex
import MemoryLab.Model.AnswerGate

/-! # The guard of the SQL that the graph reader runs

The guard looks at the statement without its comments; what is executed is the statement as it
was given. -/

namespace MemoryLab.ReadOnlySql

open Library Library.Pattern Answer

/-- A letter of a pattern compared without case: some letters have a third form. -/
def equalsIgnoringCase (letter c : Char) : Bool :=
  c.toUpper == letter || (letter == 'I' && c.toNat ∈ [0x130, 0x131]) ||
    (letter == 'K' && c.toNat == 0x212a) || (letter == 'S' && c.toNat == 0x17f)

def mutationKeywords : List Text :=
  ["INSERT", "UPDATE", "DELETE", "DROP", "ALTER", "CREATE", "TRUNCATE", "REINDEX", "VACUUM",
    "MERGE", "GRANT", "REVOKE"].map String.toList

def startKeywords : List Text := ["SELECT", "WITH"].map String.toList

/-- `(…|…)` of words. -/
def oneOf (keywords : List Text) : Pattern :=
  keywords.foldr (fun keyword r => .alt (.word equalsIgnoringCase keyword) r) (.one fun _ => false)

/-! ## Comments -/

/-- The first substitution: what stands from two hyphens to the end of their line is dropped.
The flag tells that a match goes on. -/
def stripLineComments : Bool → Text → Text
  | _, [] => []
  | true, c :: cs =>
    if c = '\n' then c :: stripLineComments false cs else stripLineComments true cs
  | false, c :: cs =>
    if c = '-' ∧ cs.head? = some '-' then stripLineComments true cs
    else c :: stripLineComments false cs

/-- A mark that closes a comment lies ahead. -/
def closesComment : Text → Bool
  | [] => false
  | c :: cs => (c == '*' && cs.head? == some '/') || closesComment cs

/-- Where in a match a character stands: before the second character of either mark, or between
the marks. -/
inductive BlockMatch where
  | outside
  | opening
  | inside
  | closing
deriving DecidableEq

/-- The second substitution: a mark that opens a comment is dropped, up to the next mark that
closes one, if there is any. -/
def stripBlockComments : BlockMatch → Text → Text
  | _, [] => []
  | .outside, c :: cs =>
    if c = '/' ∧ cs.head? = some '*' ∧ closesComment cs.tail = true then
      stripBlockComments .opening cs
    else c :: stripBlockComments .outside cs
  | .opening, _ :: cs => stripBlockComments .inside cs
  | .inside, c :: cs =>
    stripBlockComments (if c = '*' ∧ cs.head? = some '/' then .closing else .inside) cs
  | .closing, _ :: cs => stripBlockComments .outside cs

def stripSqlComments (sql : Text) : Text :=
  stripBlockComments .outside (stripLineComments false sql)

/-! ## The guard -/

structure Reader where
  strictReadOnly : Bool := true
  connected : Bool := true
deriving DecidableEq

section Guard

variable (words : WordClass)

/-- `MUTATION_SQL_RE.search`. -/
def mutates (statement : Text) : Bool :=
  (oneOf mutationKeywords).searchBounded words.isWord none statement

/-- `ALLOWED_SQL_START_RE.match`. -/
def startsAllowed (statement : Text) : Bool :=
  ((seq (many Text.isSpace) (oneOf startKeywords)).remainders statement).any fun rest =>
    isBoundary words.isWord (statement.take (statement.length - rest.length)).getLast? rest.head?

def ensureReadOnlySql (reader : Reader) (sql : Text) : Except String Unit :=
  let statement := (stripSqlComments sql).strip
  if reader.strictReadOnly && mutates words statement then
    .error "RepositoryGraphHealthReader only permits read-only SELECT/WITH SQL"
  else if reader.strictReadOnly && !startsAllowed words statement then
    .error "RepositoryGraphHealthReader SQL must start with SELECT or WITH"
  else .ok ()

/-- The text that is handed to the cursor, when there is a connection. -/
def executeRead (reader : Reader) (sql : Text) : Except String (Option Text) :=
  match ensureReadOnlySql words reader sql with
  | .error error => .error error
  | .ok () => .ok (if reader.connected then some sql else none)

end Guard

end MemoryLab.ReadOnlySql
