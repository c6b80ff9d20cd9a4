import SimRegress.Tree.Basic
import SimRegress.Text.Search

/-!
Core files that a crashed simulation leaves in its directory.

A core file is an ELF file of type core: its first four bytes are `7f 45 4c 46`, its sixth byte
says whether words are little-endian (1) or big-endian (2), and the 16-bit word at offset 16 is
4. A file shorter than 18 bytes, or one that cannot be read, is none. Only files directly in a
directory whose name is text containing `core` are looked at.
-/

namespace SimRegress

/-- Whether a file's bytes start with the header of an ELF core file. -/
def isCoreHeader (bytes : List UInt8) : Bool :=
  match bytes with
  | b0 :: b1 :: b2 :: b3 :: _ :: b5 :: _ :: _ :: _ :: _ :: _ :: _ :: _ :: _ :: _ :: _ :: b16 :: b17 :: _ =>
    b0 == 0x7f && b1 == 0x45 && b2 == 0x4c && b3 == 0x46 &&
      (if b5 == 1 then b16.toNat + 256 * b17.toNat == 4
       else if b5 == 2 then b17.toNat + 256 * b16.toNat == 4
       else false)
  | _ => false

/-- Whether the file at a path is a core file. -/
def Tree.isCoreFile (t : Tree) (p : TreePath) : Bool :=
  match t.file? p with
  | some bytes => isCoreHeader bytes
  | none => false

/-- The core files directly in a directory, in name order. -/
def Tree.coreFiles (t : Tree) (dir : TreePath) : List TreePath :=
  if t.isDir dir then
    (((t.children dir).filter (·.toStr?.any (Text.contains · "core"))).map (dir ++ [·])).filter
      fun p =>
        t.isFile p && t.isCoreFile p
  else []

/-- Removes the core files of a directory; a file that cannot be removed stays. -/
def Tree.removeCoreFiles (t : Tree) (dir : TreePath) : Tree :=
  (t.coreFiles dir).foldl (fun t p => match t.removeFile p with
    | .ok t' => t'
    | .error _ => t) t

end SimRegress
