import BuildBlocks.Block.Extension
import BuildBlocks.Text.Lower

/-!
# Settings

Settings hold for every page of a run. Options of a single call fall back to them. What an extension
file does is not written in the file as a run sees it, so it stands here too.
-/

namespace BuildBlocks

/-- The settings of a run. -/
structure Settings where
  /-- The marker word of blocks. -/
  commentMarker : Text := "build".toList
  /-- How deep included pages may be nested. -/
  maxIncludeDepth : Int := 32
  /-- The suffixes of files that are included as pages. -/
  htmlExtensions : List Text := [".html".toList, ".htm".toList]
  /-- The encoding of all files that are read and written. -/
  encoding : Encoding := Encoding.ofName "utf-8".toList
  /-- The pattern of placeholders; its first group is the expression. -/
  interpolate : Text := "\\$\\\x7b([\\s\\S]+?)\\\x7d".toList
  /-- Whether a placeholder that leads nowhere is a fault. -/
  strict : Bool := false
  /-- The number of jobs that run at a time; the number of processors if it is not given. -/
  maxWorkers : Option Int := none
  /-- What an extension file does, by what stands at its path. -/
  extensionOf : Entry → Extension := Extension.ofEntry

namespace Settings

/-- Whether files with this suffix are included as pages; letter case does not matter. -/
def isHtml (s : Settings) (suffix : Text) : Bool :=
  (s.htmlExtensions.map Text.lower).contains (Text.lower suffix)

end Settings
end BuildBlocks
