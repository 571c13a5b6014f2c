/-!
# Texts

A text is a list of runes, one rune a Unicode code point. Patterns, subjects, captured texts and
command-line arguments are texts, and every offset into a text counts runes.
-/
namespace PatternSearch

/-- A list of Unicode code points. -/
abbrev Text := List Char

end PatternSearch
