import LaunchPolicy.Fault

/-!
Files by path, as they are found, and what can be wrong with a file: the system refuses to open it, or its
contents have a fault. In a text file a carriage return, alone or before a line feed, ends a line as a line
feed does.
-/

namespace LaunchPolicy

inductive FileRefusal where
  | missing
  | notDirectory
  | isDirectory
  | nameTooLong
deriving DecidableEq, Repr

namespace FileRefusal

/-- The system's number and text of a refusal. -/
def reason : FileRefusal → Nat × String
  | .missing => (2, "No such file or directory")
  | .notDirectory => (20, "Not a directory")
  | .isDirectory => (21, "Is a directory")
  | .nameTooLong => (36, "File name too long")

/-- The report of a refusal to open a file. -/
def text (refusal : FileRefusal) (path : String) : String :=
  let (number, reason) := refusal.reason
  "[Errno " ++ toString number ++ "] " ++ reason ++ ": " ++ Scalar.quoted (.text path)

end FileRefusal

inductive FileProblem where
  | refused (reason : FileRefusal)
  | faulty (cause : Fault)
deriving DecidableEq, Repr

namespace Text

def lineFeeds : List Char → List Char
  | '\r' :: '\n' :: rest => '\n' :: lineFeeds rest
  | '\r' :: rest => '\n' :: lineFeeds rest
  | c :: rest => c :: lineFeeds rest
  | [] => []

theorem line_feeds_of_not_mem {cs : List Char} (h : '\r' ∉ cs) : lineFeeds cs = cs := by
  fun_induction lineFeeds cs with
  | case1 => simp at h
  | case2 => simp at h
  | case3 c rest _ _ ih => rw [ih fun mem => h (List.mem_cons_of_mem c mem)]
  | case4 => rfl

end Text

structure Files where
  octets : String → Except FileProblem (List UInt8)
  /-- The directory that a tilde stands for. -/
  home : String := "/"

namespace Files

/-- A tilde at the beginning of a path is the home directory. -/
def expand (files : Files) (path : String) : String :=
  match path.toList with
  | '~' :: rest =>
      if rest.head?.all (· = '/') then
        let home := (files.home.toList.reverse.dropWhile (· = '/')).reverse
        let expanded := String.ofList (home ++ rest)
        if expanded.isEmpty then "/" else expanded
      else path
  | _ => path

/-- The text that octets are in UTF-8, every line of it ended by a line feed. -/
def decode (octets : List UInt8) : Except Fault String :=
  match String.fromUTF8? ⟨octets.toArray⟩ with
  | some text => .ok (String.ofList (Text.lineFeeds text.toList))
  | none => .error .notUtf8

theorem decode_cases (octets : List UInt8) :
    (∃ text, decode octets = .ok text) ∨ decode octets = .error .notUtf8 := by
  rw [decode]
  cases String.fromUTF8? ⟨octets.toArray⟩ with
  | none => exact .inr rfl
  | some text => exact .inl ⟨_, rfl⟩

def text (files : Files) (path : String) : Except FileProblem String := do
  (decode (← files.octets path)).mapError .faulty

end Files

end LaunchPolicy
