import BuildBlocks.Text.Basic

/-!
# Markup escapes

A value that is to be shown literally in a page has the five characters with a meaning in markup
replaced by character references.
-/

namespace BuildBlocks
namespace Text

/-- The reference that stands for `c` in markup, or `c` itself. -/
def escapeMarkupChar : Char → Text
  | '&' => "&amp;".toList
  | '<' => "&lt;".toList
  | '>' => "&gt;".toList
  | '"' => "&quot;".toList
  | '\'' => "&#x27;".toList
  | c => [c]

/-- The text with every character that has a meaning in markup replaced by its reference. -/
def escapeMarkup (s : Text) : Text := s.flatMap escapeMarkupChar

end Text
end BuildBlocks
