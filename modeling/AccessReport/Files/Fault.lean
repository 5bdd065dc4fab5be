/-!
# Faults of files

Why a file cannot be read, found or written, with the system's number and words for it.

Results:
* `code_ofCode`: a fault that is made from a number has that number.
* `ofCode_code`: the number of a fault that the system tells by number leads back to it.
-/
namespace AccessReport

inductive FileFault where
  | notFound
  | denied
  | alreadyExists
  | notDirectory
  | isDirectory
  | nameTooLong
  /-- A character of the name has the code zero. -/
  | invalidName
  | other (number : Nat) (words : String)
deriving DecidableEq, Repr

namespace FileFault

def code : FileFault → Nat
  | notFound => 2
  | denied => 13
  | alreadyExists => 17
  | notDirectory => 20
  | isDirectory => 21
  | nameTooLong => 36
  | invalidName => 22
  | other number _ => number

def words : FileFault → String
  | notFound => "No such file or directory"
  | denied => "Permission denied"
  | alreadyExists => "File exists"
  | notDirectory => "Not a directory"
  | isDirectory => "Is a directory"
  | nameTooLong => "File name too long"
  | invalidName => "file name contained an unexpected NUL byte"
  | other _ words => words

/-- The words and the number. A name that no system is asked about has no number. -/
def message : FileFault → String
  | invalidName => invalidName.words
  | fault => s!"{fault.words} (os error {fault.code})"

/-- The faults that the system tells by number. -/
def all : List FileFault :=
  [notFound, denied, alreadyExists, notDirectory, isDirectory, nameTooLong]

/-- The fault with a number. -/
def ofCode (number : Nat) (words : String) : FileFault :=
  (all.find? (·.code == number)).getD (other number words)

theorem code_ofCode (number : Nat) (words : String) : (ofCode number words).code = number := by
  unfold ofCode
  cases hfound : all.find? (·.code == number) with
  | none => rfl
  | some fault => simpa using List.find?_some hfound

theorem ofCode_code {fault : FileFault} (h : fault ∈ all) (words : String) :
    ofCode fault.code words = fault := by
  have hfound : ∀ known ∈ all, all.find? (·.code == known.code) = some known := by decide
  rw [ofCode, hfound fault h, Option.getD_some]

end FileFault
end AccessReport
