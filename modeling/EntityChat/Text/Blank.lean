import EntityChat.Text.Span

/-!
Blanks: the characters with the Unicode property White_Space.
-/

namespace EntityChat.Text

def blankSpans : List Span :=
  [⟨0x9, 0xD⟩, ⟨0x20, 0x20⟩, ⟨0x85, 0x85⟩, ⟨0xA0, 0xA0⟩, ⟨0x1680, 0x1680⟩, ⟨0x2000, 0x200A⟩,
   ⟨0x2028, 0x2029⟩, ⟨0x202F, 0x202F⟩, ⟨0x205F, 0x205F⟩, ⟨0x3000, 0x3000⟩]

theorem ascending_blankSpans : Span.ascending 0 blankSpans = true := by decide +kernel

def isBlank (c : Char) : Bool := Span.cover blankSpans c.toNat

end EntityChat.Text
