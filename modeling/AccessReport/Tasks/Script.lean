import AccessReport.Files.Tree
/-!
# Scripts

The small part of the shell that stand-ins for other programs are written in: commands that print
words, also into a file, compare words, and exit with a code, one after the other or under a
condition. A script is run while it is read, word by word; what a condition leaves out is read
without being run.
-/
namespace AccessReport.Script

/-! ## Words -/

inductive Word where
  /-- A text as it stands. -/
  | text (value : String)
  /-- A text with parameters behind dollar signs. -/
  | filled (value : String)
  /-- What joins commands, or says where they print. A line feed joins like a semicolon. -/
  | sign (symbol : String)
deriving DecidableEq, Repr

def isSign (c : Char) : Bool := c == ';' || c == '&' || c == '|' || c == '>' || c == ')'

def isPlain (c : Char) : Bool :=
  !(c == ' ' || c == '\t' || c == '\n' || c == '"' || c == '\'' || isSign c)

/-- A word from its characters between quotes or blanks. -/
def wordOf (cs : List Char) : Word :=
  if cs.contains '$' then .filled (String.ofList cs) else .text (String.ofList cs)

/-- A plain word. A number right before a greater sign tells what is sent there. -/
def plainWord (cs rest : List Char) : Word :=
  if cs.all Char.isDigit && rest.head? == some '>' then .sign (String.ofList cs) else wordOf cs

theorem drop_length (cs : List Char) (p : Char → Bool) (c : Char) :
    ((cs.dropWhile p).drop 1).length < (c :: cs).length := by
  have := (List.dropWhile_sublist p (l := cs)).length_le
  simp only [List.length_drop, List.length_cons]
  omega

/-- The words of a script. -/
def words (cs : List Char) : List Word :=
  match cs with
  | [] => []
  | '\n' :: rest => .sign ";" :: words rest
  | '#' :: rest => words (rest.dropWhile (· != '\n'))
  | '\'' :: rest =>
    .text (String.ofList (rest.takeWhile (· != '\''))) ::
      words ((rest.dropWhile (· != '\'')).drop 1)
  | '"' :: rest => wordOf (rest.takeWhile (· != '"')) :: words ((rest.dropWhile (· != '"')).drop 1)
  | c :: d :: rest =>
    if isSign c then
      if c = d then .sign (String.ofList [c, d]) :: words rest
      else .sign c.toString :: words (d :: rest)
    else if isPlain c then
      plainWord (c :: (d :: rest).takeWhile isPlain) ((d :: rest).dropWhile isPlain)
        :: words ((d :: rest).dropWhile isPlain)
    else words (d :: rest)
  | [c] => if isSign c then [.sign c.toString] else if isPlain c then [wordOf [c]] else []
termination_by cs.length
decreasing_by
  · simp
  · have := (List.dropWhile_sublist (· != '\n') (l := rest)).length_le
    simp only [List.length_cons]
    omega
  · exact drop_length rest _ _
  · exact drop_length rest _ _
  · simp only [List.length_cons]
    omega
  · simp
  · have := (List.dropWhile_sublist isPlain (l := d :: rest)).length_le
    simp only [List.length_cons] at this ⊢
    omega
  · simp

/-! ## Running -/

/-- How far a script has come. -/
structure Progress where
  tree : FileTree
  stdout : String := ""
  /-- The code of the last command. -/
  code : Nat := 0
  finished : Bool := false
deriving Repr

/-- The value of a parameter: an argument by its number, all of them, or how many there are. -/
def parameter? (arguments : List String) (c : Char) : Option String :=
  if c.isDigit then some (arguments.getD (c.toNat - 49) "")
  else if c == '@' || c == '*' then some (" ".intercalate arguments)
  else if c == '#' then some (toString arguments.length)
  else none

/-- The characters with the values of parameters. -/
def fill (arguments : List String) : List Char → List Char
  | '$' :: c :: rest => match parameter? arguments c with
    | some value => value.toList ++ fill arguments rest
    | none => '$' :: fill arguments (c :: rest)
  | c :: rest => c :: fill arguments rest
  | [] => []

def valueOf (arguments : List String) : Word → List String
  | .text value => [value]
  | .filled value =>
    if value = "$@" then arguments else [String.ofList (fill arguments value.toList)]
  | .sign symbol => [symbol]

/-- The file that takes everything and keeps nothing. -/
def nowhere : String := "/dev/null"

/-- Prints a text at the end of a file, or instead of what is in it. -/
def printTo (progress : Progress) (path text : String) (append : Bool) : Progress :=
  if path = nowhere then { progress with code := 0 } else
  let before := match progress.tree.read path with
    | .ok held => if append then held else ""
    | .error _ => ""
  match progress.tree.write path (before ++ text) with
  | .ok tree => { progress with tree, code := 0 }
  | .error _ => { progress with code := 1 }

def exit (progress : Progress) (code : Nat) : Progress := { progress with code, finished := true }

/-- One command with its words, and the file that takes what it prints. -/
def command (progress : Progress) (values : List String) (target : Option (String × Bool)) :
    Progress :=
  let judged (holds : Bool) : Progress := { progress with code := if holds then 0 else 1 }
  match values with
  | "echo" :: values =>
    let text := " ".intercalate values ++ "\n"
    match target with
    | some (path, append) => printTo progress path text append
    | none => { progress with stdout := progress.stdout ++ text, code := 0 }
  | "exit" :: code => exit progress ((code.head?.bind (·.toNat?)).getD progress.code % 256)
  | ["[", a, "=", b, "]"] | ["test", a, "=", b] => judged (a == b)
  | ["[", a, "!=", b, "]"] | ["test", a, "!=", b] => judged (a != b)
  | ["true"] | [":"] | [] => judged true
  | ["false"] => judged false
  | _ => { progress with code := 127 }

/-- The words of one command, where they go, and what follows. -/
def splitCommand (arguments : List String) :
    List Word → List String × Option (String × Bool) × List Word
  | .sign "2" :: .sign ">" :: .sign "&" :: _ :: rest => splitCommand arguments rest
  | .sign "2" :: .sign _ :: _ :: rest => splitCommand arguments rest
  | .sign "1" :: rest => splitCommand arguments rest
  | .sign ">" :: .sign "&" :: _ :: rest =>
    let (values, _, left) := splitCommand arguments rest
    (values, some (nowhere, true), left)
  | .sign ">>" :: file :: rest =>
    let (values, _, left) := splitCommand arguments rest
    (values, some ((valueOf arguments file).headD "", true), left)
  | .sign ">" :: file :: rest =>
    let (values, _, left) := splitCommand arguments rest
    (values, some ((valueOf arguments file).headD "", false), left)
  | .sign symbol :: rest => ([], none, .sign symbol :: rest)
  | word :: rest =>
    let (values, target, left) := splitCommand arguments rest
    (valueOf arguments word ++ values, target, left)
  | [] => ([], none, [])

/-- The words behind the end of a condition: what comes otherwise if that is wanted, or its end. -/
def skipBranch (toElse : Bool) (depth : Nat) : List Word → List Word
  | [] => []
  | .text "if" :: rest => skipBranch toElse (depth + 1) rest
  | .text "fi" :: rest => if depth = 0 then rest else skipBranch toElse (depth - 1) rest
  | .text "else" :: rest | .text "elif" :: rest =>
    if depth = 0 && toElse then rest else skipBranch toElse depth rest
  | _ :: rest => skipBranch toElse depth rest

/-- The words of the first case that fits a value, behind its closing bracket. -/
def findCase (value : String) : List Word → List Word
  | [] => []
  | .text "esac" :: rest => rest
  | .text pattern :: .sign symbol :: rest =>
    if symbol = ")" || symbol = "|" then
      if pattern = value || pattern = "*" then
        if symbol = ")" then rest else (rest.dropWhile (· != .sign ")")).drop 1
      else findCase value rest
    else findCase value (.sign symbol :: rest)
  | _ :: rest => findCase value rest

def skipToEsac (rest : List Word) : List Word :=
  (rest.dropWhile (· != .text "esac")).drop 1

/-- One step of a script, and the words that are left. -/
def step (arguments : List String) (progress : Progress) : List Word → Progress × List Word
  | .sign "&&" :: rest =>
    (progress, if progress.code = 0 then rest else (splitCommand arguments rest).2.2)
  | .sign "||" :: rest =>
    (progress, if progress.code ≠ 0 then rest else (splitCommand arguments rest).2.2)
  | .sign ";;" :: rest => (progress, skipToEsac rest)
  | .sign _ :: rest => (progress, rest)
  | .text "if" :: rest => (progress, rest)
  | .text "then" :: rest =>
    ({ progress with code := 0 }, if progress.code = 0 then rest else skipBranch true 0 rest)
  | .text "else" :: rest | .text "elif" :: rest => (progress, skipBranch false 0 rest)
  | .text "fi" :: rest | .text "esac" :: rest => (progress, rest)
  | .text "case" :: subject :: .text "in" :: rest =>
    ({ progress with code := 0 }, findCase ((valueOf arguments subject).headD "") rest)
  | start =>
    let (values, target, rest) := splitCommand arguments start
    (command progress values target, rest)

/-! Each step takes a word at least. -/

theorem splitCommand_length_le (arguments : List String) (words : List Word) :
    (splitCommand arguments words).2.2.length ≤ words.length := by
  fun_induction splitCommand arguments words <;> simp_all <;> omega

/-- Of a command that begins with a word there is less left. -/
theorem splitCommand_length_lt (arguments : List String) {word : Word} (rest : List Word)
    (h : ∀ symbol, word ≠ .sign symbol) :
    (splitCommand arguments (word :: rest)).2.2.length < (word :: rest).length := by
  have hrest := splitCommand_length_le arguments rest
  cases word with
  | sign symbol => exact absurd rfl (h symbol)
  | text value => simpa [splitCommand] using Nat.lt_succ_of_le hrest
  | filled value => simpa [splitCommand] using Nat.lt_succ_of_le hrest

theorem skipBranch_length_le (toElse : Bool) (depth : Nat) (words : List Word) :
    (skipBranch toElse depth words).length ≤ words.length := by
  fun_induction skipBranch toElse depth words <;> simp_all <;> omega

theorem behind_length_le (words : List Word) (p : Word → Bool) :
    ((words.dropWhile p).drop 1).length ≤ words.length := by
  have := (List.dropWhile_sublist p (l := words)).length_le
  simp only [List.length_drop]
  omega

theorem findCase_length_le (value : String) (words : List Word) :
    (findCase value words).length ≤ words.length := by
  fun_induction findCase value words with
  | case4 pattern symbol rest =>
    have := behind_length_le rest (· != .sign ")")
    simp only [List.length_cons]
    omega
  | _ => simp_all <;> omega

theorem step_length_lt (arguments : List String) (progress : Progress) {words : List Word}
    (h : words ≠ []) : (step arguments progress words).2.length < words.length := by
  have hbranch := skipBranch_length_le
  have hbehind := behind_length_le
  cases words with
  | nil => exact absurd rfl h
  | cons word rest =>
    unfold step
    split
    case h_12 _ _ _ hsign _ _ _ _ _ _ _ =>
      exact splitCommand_length_lt arguments rest fun symbol heq => hsign symbol rest (heq ▸ rfl)
    all_goals grind [skipToEsac, splitCommand_length_le, findCase_length_le]

/-- Runs the words of a script, up to the end or to a command that ends it. -/
def run (arguments : List String) (progress : Progress) (words : List Word) : Progress :=
  if _ : words = [] ∨ progress.finished then progress
  else run arguments (step arguments progress words).1 (step arguments progress words).2
termination_by words.length
decreasing_by
  exact step_length_lt arguments progress (by simp_all)

/-- Runs a script with arguments. -/
def ofText (text : String) (arguments : List String) (tree : FileTree) : Progress :=
  run arguments { tree } (words text.toList)

end AccessReport.Script
