import ElmOnSave.Path

/-!
# Saved documents

A document that an editor has just written.  Only Elm sources on disk are of interest.
-/

namespace ElmOnSave

/-- A document just written. -/
structure SavedDocument where
  path : String
  language : String
  scheme : String
deriving Repr, DecidableEq, Inhabited

namespace SavedDocument

/-- The language of Elm sources. -/
def elm : String := "elm"

/-- The scheme of files on disk. -/
def onDisk : String := "file"

/-- A document on disk, whose language is known by its suffix. -/
def ofPath (cwd : String) (path : String) : SavedDocument :=
  ⟨Path.absText cwd path,
    if (Path.ofString path).suffix = ".elm" then elm else "plaintext", onDisk⟩

/-- Whether the document is an Elm source on disk. -/
def isAccepted (d : SavedDocument) : Bool :=
  d.language == elm && d.scheme == onDisk

end SavedDocument

end ElmOnSave
