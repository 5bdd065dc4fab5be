import AccessReport.Proofs.Toml.Values
/-!
# Written lines of TOML

Keys that need no quotes are written as they are, so that a line is a header or a key with its
value. `Spells text statements` says that a text, whatever follows it, is read as those statements;
texts that are put behind one another spell the statements of both.

* `keyParts?_path`, `header?_write`, `statementText?_assignment`: one line.
* `Spells.append`, `Spells.flatMap`, `Spells.intercalate`: rows of lines.
* `spells_write`, `read?_of_spells`: a whole text, and the document it stands for.
-/
namespace AccessReport.Toml

/-! ## Keys -/

/-- A key that needs no quotes. -/
structure BareKey (key : String) : Prop where
  ne_nil : key.toList ≠ []
  chars : ∀ c ∈ key.toList, isKeyChar c = true

instance (key : String) : Decidable (BareKey key) :=
  decidable_of_iff (key.toList ≠ [] ∧ key.toList.all isKeyChar = true)
    ⟨fun h => ⟨h.1, List.all_eq_true.mp h.2⟩, fun h => ⟨h.1, List.all_eq_true.mpr h.2⟩⟩

theorem not_isSpace_of_isKeyChar {c : Char} (h : isKeyChar c = true) : isSpace c = false := by
  rw [isSpace, Bool.or_eq_false_iff, beq_eq_false_iff_ne, beq_eq_false_iff_ne]
  constructor <;> rintro rfl <;> cases h

theorem isSolid_of_isKeyChar {c : Char} (h : isKeyChar c = true) : isSolid c = true := by
  have hne : c ≠ '#' ∧ c ≠ '\n' ∧ c ≠ '\r' := by
    refine ⟨?_, ?_, ?_⟩ <;> rintro rfl <;> cases h
  simp [isSolid, not_isSpace_of_isKeyChar h, hne]

/-- A key without quotes ends before the first other character. -/
theorem keyPart?_bare {key : String} (h : BareKey key) {c : Char} (hc : isKeyChar c = false)
    (rest : List Char) :
    keyPart? (key.toList ++ c :: rest) = some (key, c :: rest) := by
  obtain ⟨first, tail, htext⟩ := List.exists_cons_of_ne_nil h.ne_nil
  have hfirst : isKeyChar first = true := h.chars first (htext ▸ List.mem_cons_self)
  have hne : first ≠ '"' ∧ first ≠ '\'' := by
    constructor <;> rintro rfl <;> cases hfirst
  have htake : (key.toList ++ c :: rest).takeWhile isKeyChar = key.toList := by
    rw [List.takeWhile_append_of_pos h.chars, List.takeWhile_cons_of_neg (by simp [hc]),
      List.append_nil]
  have hdrop : (key.toList ++ c :: rest).dropWhile isKeyChar = c :: rest := by
    rw [List.dropWhile_append_of_pos h.chars, List.dropWhile_cons_of_neg (by simp [hc])]
  rw [keyPart?]
  · rw [htake, hdrop, String.ofList_toList, List.isEmpty_eq_false_iff.mpr h.ne_nil]
    rfl
  · rw [htext]
    simp [hne]
  · rw [htext]
    simp [hne]

theorem skipSpace_bare {key : String} (h : BareKey key) (rest : List Char) :
    skipSpace (key.toList ++ rest) = key.toList ++ rest := by
  obtain ⟨first, tail, htext⟩ := List.exists_cons_of_ne_nil h.ne_nil
  have hfirst : isKeyChar first = true := h.chars first (htext ▸ List.mem_cons_self)
  rw [htext, List.cons_append, skipSpace_cons (not_isSpace_of_isKeyChar hfirst)]

/-- The last part of a key, before a character that is not its own. -/
theorem keyParts?_last {key : String} (h : BareKey key) {c next : Char} {rest tail : List Char}
    (hc : isKeyChar c = false) (hnext : skipSpace (c :: rest) = next :: tail)
    (hpoint : next ≠ '.') :
    keyParts? (key.toList ++ c :: rest) = some ([key], next :: tail) := by
  rw [keyParts?, skipSpace_bare h, keyPart?_bare h hc]
  simp [hnext, hpoint]

theorem keyParts?_cons {key : String} (h : BareKey key) (cs : List Char) :
    keyParts? (key.toList ++ '.' :: cs)
      = (keyParts? cs).map fun more => (key :: more.1, more.2) := by
  have hpoint : skipSpace ('.' :: cs) = '.' :: cs := skipSpace_cons (by decide) cs
  have hlt : cs.length < (key.toList ++ '.' :: cs).length := by
    rw [List.length_append, List.length_cons]
    omega
  rw [keyParts?, skipSpace_bare h, keyPart?_bare h (by decide)]
  simp only [hpoint, hlt, if_true, Option.bind_eq_bind, Option.bind_some]
  cases keyParts? cs <;> rfl

/-- A path of such keys, with points between them. -/
theorem keyParts?_path {path : List String} (hne : path ≠ []) (h : ∀ key ∈ path, BareKey key)
    {c next : Char} {rest tail : List Char} (hc : isKeyChar c = false)
    (hnext : skipSpace (c :: rest) = next :: tail) (hpoint : next ≠ '.') :
    keyParts? ((".".intercalate path).toList ++ c :: rest) = some (path, next :: tail) := by
  induction path with
  | nil => exact absurd rfl hne
  | cons key path ih =>
    have hkey : BareKey key := h key List.mem_cons_self
    cases path with
    | nil =>
      rw [String.toList_intercalate]
      simpa using keyParts?_last hkey hc hnext hpoint
    | cons other path =>
      have hread := ih (by simp) fun key hm => h key (List.mem_cons_of_mem _ hm)
      have htext : (".".intercalate (key :: other :: path)).toList ++ c :: rest
          = key.toList ++ '.' :: ((".".intercalate (other :: path)).toList ++ c :: rest) := by
        simp [String.toList_intercalate, List.intercalate]
      rw [htext, keyParts?_cons hkey, hread]
      rfl

/-! ## Statements -/

/-- A header, as it is written, opens what it names. -/
def Header.statement : Header → Statement
  | table path => .table path
  | element path => .element path

def Header.path : Header → List String
  | table path | element path => path

/-- A path whose keys need no quotes. -/
structure BarePath (path : List String) : Prop where
  ne_nil : path ≠ []
  keys : ∀ key ∈ path, BareKey key
  length_le : path.length ≤ deepest

instance (path : List String) : Decidable (BarePath path) :=
  decidable_of_iff (path ≠ [] ∧ (∀ key ∈ path, BareKey key) ∧ path.length ≤ deepest)
    ⟨fun h => ⟨h.1, h.2.1, h.2.2⟩, fun h => ⟨h.1, h.2, h.3⟩⟩

theorem key?_path {path : List String} (h : BarePath path) {c next : Char} {rest tail : List Char}
    (hc : isKeyChar c = false) (hnext : skipSpace (c :: rest) = next :: tail)
    (hpoint : next ≠ '.') :
    key? ((".".intercalate path).toList ++ c :: rest) = some (path, next :: tail) := by
  have hparts := keyParts?_path h.ne_nil h.keys hc hnext hpoint
  rw [key?, hparts]
  simp [h.length_le]

theorem BarePath.head {path : List String} (h : BarePath path) :
    ∃ c tail, (".".intercalate path).toList = c :: tail ∧ isKeyChar c = true := by
  obtain ⟨key, more, rfl⟩ := List.exists_cons_of_ne_nil h.ne_nil
  have hkey : BareKey key := h.keys key List.mem_cons_self
  obtain ⟨first, tail, htext⟩ := List.exists_cons_of_ne_nil hkey.ne_nil
  have hfirst : isKeyChar first = true := hkey.chars first (htext ▸ List.mem_cons_self)
  rw [String.toList_intercalate, List.map_cons, htext]
  cases more with
  | nil => exact ⟨first, _, rfl, hfirst⟩
  | cons other more => exact ⟨first, _, rfl, hfirst⟩

theorem header?_write {header : Header} (h : BarePath header.path) (rest : List Char) :
    header? (header.write.toList ++ rest) = some (header.statement, rest) := by
  have hclose : ∀ rest, skipSpace (']' :: rest) = ']' :: rest := skipSpace_cons (by decide)
  cases header with
  | table path =>
    have hread := key?_path h (by decide) (hclose rest) (by decide)
    have htext : (Header.table path).write.toList ++ rest
        = '[' :: ((".".intercalate path).toList ++ ']' :: rest) := by
      simp [Header.write]
    obtain ⟨c, tail, hhead, hc⟩ := h.head
    have hbracket : c ≠ '[' := by
      rintro rfl
      cases hc
    rw [htext, header?]
    · rw [Header.path] at hread
      rw [hread]
      rfl
    · rw [Header.path] at hhead
      simp [hhead, hbracket]
  | element path =>
    have hread := key?_path h (by decide) (hclose (']' :: rest)) (by decide)
    have htext : (Header.element path).write.toList ++ rest
        = '[' :: '[' :: ((".".intercalate path).toList ++ ']' :: ']' :: rest) := by
      simp [Header.write]
    rw [Header.path] at hread
    rw [htext, header?, hread]
    rfl

/-- A key, an equals sign and a value, up to the end of the line. -/
theorem statementText?_assignment {key : String} (h : BareKey key) {value rest : List Char}
    {document : Document} (hstart : skipSpace value = value)
    (hread : value? deepest value = some (document, rest)) :
    statementText? (key.toList ++ ' ' :: '=' :: ' ' :: value)
      = some (.assignment [key] document, rest) := by
  have hpath : BarePath [key] :=
    ⟨by simp, by simpa using h, by simp [deepest]⟩
  have hkey := key?_path hpath (by decide)
    (rfl : skipSpace (' ' :: '=' :: ' ' :: value) = '=' :: ' ' :: value) (by decide)
  have hsingle : (".".intercalate [key]).toList = key.toList := by simp
  rw [hsingle] at hkey
  obtain ⟨first, tail, htext⟩ := List.exists_cons_of_ne_nil h.ne_nil
  have hbracket : first ≠ '[' := by
    rintro rfl
    cases h.chars '[' (htext ▸ List.mem_cons_self)
  have hspace : skipSpace (' ' :: value) = value := hstart
  have hvalue : keyValue? (value? deepest) (key.toList ++ ' ' :: '=' :: ' ' :: value)
      = some (([key], document), rest) := by
    rw [keyValue?, hkey]
    simp [hspace, hread]
  rw [statementText?]
  · rw [hvalue]
    rfl
  · simp [htext, hbracket]

/-! ## Sections -/

/-- The assignments of a table. -/
def assignments (keys : List (String × Plain)) : List Statement :=
  keys.map fun key => .assignment [key.1] (.ofJson key.2.value)

def Section.statements (part : Section) : List Statement :=
  part.header.statement :: assignments part.keys

/-- Keys of a table that need no quotes and do not repeat. -/
structure Proper (keys : List (String × Plain)) : Prop where
  bare : ∀ entry ∈ keys, BareKey entry.1
  nodup : (keys.map (·.1)).Nodup

theorem Proper.of_listed {names : List String} {keys : List (String × Plain)}
    (h : Listed names keys) (hb : ∀ name ∈ names, BareKey name) (hn : names.Nodup) :
    Proper keys :=
  ⟨fun _ hm => hb _ (h.subset (List.mem_map_of_mem hm)), hn.sublist h⟩

structure Section.Proper (part : Section) : Prop where
  path : BarePath part.header.path
  keys : Toml.Proper part.keys

/-! ## Rows of statements -/

/-- What is read of a text, statement by statement. -/
theorem statements?_eq (cs : List Char) :
    statements? cs = match skipTrivia cs with
      | [] => some []
      | c :: start => match statement? (c :: start) with
        | none => none
        | some (statement, rest) => (statements? rest).map (statement :: ·) := by
  rw [statements?]
  split
  · rename_i h
    rw [h]
  · rename_i h
    split
    · rename_i hs
      simp only [h, hs]
    · rename_i hs
      simp only [h, hs]

/-- The characters spell the statements, whatever follows. -/
def Spells (text : List Char) (statements : List Statement) : Prop :=
  ∀ rest, statements? (text ++ rest) = (statements? rest).map (statements ++ ·)

namespace Spells

theorem nil : Spells [] [] := fun rest => by simp

theorem append {text more : List Char} {statements others : List Statement}
    (h : Spells text statements) (h' : Spells more others) :
    Spells (text ++ more) (statements ++ others) := by
  intro rest
  rw [List.append_assoc, h, h', Option.map_map]
  congr 1
  funext left
  exact (List.append_assoc statements others left).symm

theorem emptyLine : Spells ['\n'] [] := by
  intro rest
  have hskip : statements? ('\n' :: rest) = statements? rest := by
    rw [statements?_eq, statements?_eq rest, skipTrivia_newline]
  simpa using hskip

/-- One statement and the end of its line. -/
theorem line {c : Char} {line : List Char} {statement : Statement} (hc : isSolid c = true)
    (h : ∀ rest, statementText? (c :: line ++ '\n' :: rest) = some (statement, '\n' :: rest)) :
    Spells (c :: line ++ ['\n']) [statement] := by
  intro rest
  have hend : afterLine? ('\n' :: rest) = some rest := rfl
  have hlt : rest.length < (c :: line ++ '\n' :: rest).length := by
    simp only [List.length_append, List.length_cons]
    omega
  have hread : statement? (c :: line ++ '\n' :: rest) = some (statement, rest) := by
    rw [statement?, h]
    simp only [hend, hlt, if_true, Option.bind_eq_bind, Option.bind_some]
  rw [List.append_assoc, List.singleton_append, List.cons_append, statements?_eq,
    skipTrivia_cons hc]
  rw [List.cons_append] at hread
  simp only [hread]
  rfl

theorem flatMap {α : Type} {items : List α} {text : α → List Char}
    {statements : α → List Statement} (h : ∀ item ∈ items, Spells (text item) (statements item)) :
    Spells (items.flatMap text) (items.flatMap statements) := by
  induction items with
  | nil => exact nil
  | cons item items ih =>
    rw [List.flatMap_cons, List.flatMap_cons]
    exact (h item List.mem_cons_self).append
      (ih fun other hm => h other (List.mem_cons_of_mem item hm))

/-- Parts with an empty line between them. -/
theorem intercalate {parts : List (List Char × List Statement)}
    (h : ∀ part ∈ parts, Spells part.1 part.2) :
    Spells (List.intercalate ['\n'] (parts.map (·.1))) (parts.flatMap (·.2)) := by
  induction parts with
  | nil => exact nil
  | cons part parts ih =>
    have hpart := h part List.mem_cons_self
    have hmore := ih fun other hm => h other (List.mem_cons_of_mem part hm)
    cases parts with
    | nil =>
      have hsingle := hpart.append nil
      simpa [List.intercalate] using hsingle
    | cons other parts =>
      have hboth := hpart.append (emptyLine.append hmore)
      simpa [List.intercalate] using hboth

theorem assignment {key : String} (h : BareKey key) {value : List Char} {document : Document}
    (hstart : ∀ rest, skipSpace (value ++ rest) = value ++ rest)
    (hread : ∀ rest, value? deepest (value ++ '\n' :: rest) = some (document, '\n' :: rest)) :
    Spells (key.toList ++ " = ".toList ++ value ++ ['\n']) [.assignment [key] document] := by
  obtain ⟨first, tail, htext⟩ := List.exists_cons_of_ne_nil h.ne_nil
  have hsolid : isSolid first = true :=
    isSolid_of_isKeyChar (h.chars first (htext ▸ List.mem_cons_self))
  have hline : ∀ rest, statementText? (first :: (tail ++ " = ".toList ++ value) ++ '\n' :: rest)
      = some (.assignment [key] document, '\n' :: rest) := by
    intro rest
    have hread := statementText?_assignment h (hstart ('\n' :: rest)) (hread rest)
    rw [htext] at hread
    simpa using hread
  have hspells := line hsolid hline
  rw [htext]
  simpa using hspells

theorem header {header : Header} (h : BarePath header.path) :
    Spells (header.write.toList ++ ['\n']) [header.statement] := by
  obtain ⟨tail, htext⟩ : ∃ tail, header.write.toList = '[' :: tail := by
    cases header <;> exact ⟨_, by simp [Header.write]; rfl⟩
  have hline : ∀ rest, statementText? ('[' :: tail ++ '\n' :: rest)
      = some (header.statement, '\n' :: rest) := by
    intro rest
    have hread := header?_write h ('\n' :: rest)
    rw [htext] at hread
    exact hread
  rw [htext]
  exact line (by decide) hline

/-! ### Sections -/

/-- A key with its value. -/
theorem key {key : String} (h : BareKey key) (value : Plain) :
    Spells (key ++ " = " ++ value.write ++ "\n").toList
      [.assignment [key] (.ofJson value.value)] := by
  have hspells := assignment h (skipSpace_write value) (value?_write (deepest - 1) value)
  simpa using hspells

theorem writeKeys {keys : List (String × Plain)} (h : Proper keys) :
    Spells (Toml.writeKeys keys).toList (assignments keys) := by
  rw [Toml.writeKeys, String.toList_join, List.flatMap_map, assignments, List.map_eq_flatMap]
  exact flatMap fun entry hm => key (h.bare entry hm) entry.2

theorem write {part : Section} (h : part.Proper) :
    Spells part.write.toList part.statements := by
  have hspells := (header h.path).append (writeKeys h.keys)
  simpa [Section.write, Section.statements] using hspells

end Spells

/-- Keys of the root and sections, all of whose names need no quotes. -/
theorem spells_write {keys : List (String × Plain)} {sections : List Section}
    (hkeys : Proper keys) (hsections : ∀ part ∈ sections, part.Proper) :
    Spells (write keys sections).toList
      (assignments keys ++ sections.flatMap Section.statements) := by
  -- without a key of the root there is no empty line before the first section
  let parts := (if keys.isEmpty then [] else [((writeKeys keys).toList, assignments keys)])
    ++ sections.map fun part => (part.write.toList, part.statements)
  have hparts : ∀ part ∈ parts, Spells part.1 part.2 := by
    refine List.forall_mem_append.mpr ⟨?_, ?_⟩
    · cases keys with
      | nil => simp
      | cons key keys => simpa using Spells.writeKeys hkeys
    · intro part hm
      obtain ⟨written, hw, rfl⟩ := List.mem_map.mp hm
      exact .write (hsections written hw)
  have htext : List.intercalate ['\n'] (parts.map (·.1)) = (write keys sections).toList := by
    rw [write, String.toList_intercalate]
    cases keys with
    | nil => simp [parts, Function.comp_def]
    | cons key keys => simp [parts, Function.comp_def]
  have hstatements : parts.flatMap (·.2)
      = assignments keys ++ sections.flatMap Section.statements := by
    cases keys with
    | nil => simp [parts, assignments, List.flatMap_map]
    | cons key keys => simp [parts, List.flatMap_map]
  rw [← htext, ← hstatements]
  exact .intercalate hparts

/-- A text that spells statements has no mark in front of them. -/
theorem dropMark_of_statements? {cs : List Char} {statements : List Statement}
    (h : statements? cs = some statements) : dropMark cs = cs := by
  unfold dropMark
  split
  · rename_i rest
    have hspace : skipSpace ('\ufeff' :: rest) = '\ufeff' :: rest := skipSpace_cons (by decide) rest
    have hpart : keyPart? ('\ufeff' :: rest) = none := rfl
    have hnone : statement? ('\ufeff' :: rest) = none := by
      rw [statement?, statementText?, keyValue?, key?, keyParts?, hspace, hpart]
      · rfl
      · simp
    rw [statements?_eq, skipTrivia_cons (by decide)] at h
    simp only [hnone] at h
    cases h
  · rfl

theorem read?_of_spells {text : String} {statements : List Statement}
    (h : Spells text.toList statements) : read? text = documentOf? statements := by
  have hread := h []
  have hnil : statements? [] = some [] := by
    rw [statements?_eq, skipTrivia_eq]
    rfl
  rw [hnil, List.append_nil, Option.map_some, List.append_nil] at hread
  rw [read?, dropMark_of_statements? hread, hread]
  rfl

end AccessReport.Toml
