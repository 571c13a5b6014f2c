import PatternSearch.Rune.Extending
import PatternSearch.Rune.Nonprinting

/-!
# Visible runes

A rune is visible when it can be recognised wherever it stands. Nonprinting runes cannot, nor can
runes that are drawn onto the one before them, nor letters that are drawn as nothing.
-/
namespace PatternSearch.Rune

/-- The halfwidth sound marks of Katakana. They extend the grapheme before them, but each takes up a
place of its own. -/
def soundMarkRanges : RangeTable := ⟨[(0xFF9E, 0xFF9F)], by decide⟩

/-- The Hangul fillers: letters that stand for a missing one and leave its place empty. They are the
letters among the code points that are ignored where they cannot be drawn (property
Default_Ignorable_Code_Point). -/
def fillerRanges : RangeTable :=
  ⟨[(0x115F, 0x1160), (0x3164, 0x3164), (0xFFA0, 0xFFA0)], by decide⟩

/-- Whether a rune is drawn onto the one before it. -/
def isCombining (rune : Char) : Bool :=
  extendingRanges.contains rune.toNat && !soundMarkRanges.contains rune.toNat

/-- Whether a rune can be recognised wherever it stands. -/
def isVisible (rune : Char) : Bool :=
  !(nonprintingRanges.contains rune.toNat || isCombining rune || fillerRanges.contains rune.toNat)

end PatternSearch.Rune
