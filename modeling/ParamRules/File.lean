import ParamRules.Fault
import ParamRules.Path

/-!
Files: what stands at each path, seen from a working directory with an environment.
-/

namespace ParamRules

inductive FileEntry where
  | absent
  | directory
  | file (bytes : List UInt8)

/-- The files that can be read: what stands at an absolute path in its normal form, the working
directory, and the environment in which paths are expanded. -/
structure Files where
  entry : Path → FileEntry
  directory : Path
  environment : Environment

namespace Files

/-- The path that a text stands for, with the home directory in place of a tilde. -/
def locate (f : Files) (text : String) : Except Fault Path :=
  match (Path.ofText text).expandHome f.environment with
  | some p => .ok p
  | none => .error (.plain .noHome)

/-- The absolute path, in its normal form, of a path that may be relative. -/
def resolve (f : Files) (p : Path) : Path :=
  { (f.directory.within p).normal with slashes := 1 }

def at? (f : Files) (p : Path) : FileEntry :=
  f.entry (f.resolve p)

def decode (bytes : List UInt8) : Except Fault String :=
  match String.fromUTF8? ⟨bytes.toArray⟩ with
  | some s => .ok s
  | none => .error (.plain .notUtf8)

def read (f : Files) (p : Path) : Except Fault String :=
  match f.at? p with
  | .absent => .error (.plain .fileNotFound)
  | .directory => .error (.plain .isDirectory)
  | .file bytes => decode bytes

/-- The path of a file to be written, which may not be a directory. -/
def target (f : Files) (p : Path) : Except Fault Path :=
  match f.at? p with
  | .directory => .error (.plain .isDirectory)
  | _ => .ok p

end Files

end ParamRules
