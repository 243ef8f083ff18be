import Mathlib.Data.List.Defs

/-!
# The font of the display

Each character is five columns of eight pixels.  The first entry of the table stands
for every character that has none.
-/

namespace CarCleaner
namespace Oled

/-- `char_map_t`. -/
structure CharMap where
  ascii : UInt8
  bitMap : Vector UInt8 5
deriving DecidableEq

def glyph (ascii : Char) (b0 b1 b2 b3 b4 : UInt8) : CharMap where
  ascii := UInt8.ofNat ascii.toNat
  bitMap := #v[b0, b1, b2, b3, b4]

def font5x7 : List CharMap :=
  [
    glyph ' ' 0x00 0x00 0x00 0x00 0x00,
    glyph '.' 0x00 0x60 0x60 0x00 0x00,
    glyph ':' 0x00 0x36 0x36 0x00 0x00,
    glyph '%' 0x23 0x13 0x08 0x64 0x62,
    glyph '0' 0x3e 0x51 0x49 0x45 0x3e,
    glyph '1' 0x00 0x42 0x7f 0x40 0x00,
    glyph '2' 0x42 0x61 0x51 0x49 0x46,
    glyph '3' 0x21 0x41 0x45 0x4b 0x31,
    glyph '4' 0x18 0x14 0x12 0x7f 0x10,
    glyph '5' 0x27 0x45 0x45 0x45 0x39,
    glyph '6' 0x3c 0x4a 0x49 0x49 0x30,
    glyph '7' 0x01 0x71 0x09 0x05 0x03,
    glyph '8' 0x36 0x49 0x49 0x49 0x36,
    glyph '9' 0x06 0x49 0x49 0x29 0x1e,
    glyph 'A' 0x7e 0x11 0x11 0x11 0x7e,
    glyph 'B' 0x7f 0x49 0x49 0x49 0x36,
    glyph 'C' 0x3e 0x41 0x41 0x41 0x22,
    glyph 'D' 0x7f 0x41 0x41 0x22 0x1c,
    glyph 'E' 0x7f 0x49 0x49 0x49 0x41,
    glyph 'F' 0x7f 0x09 0x09 0x09 0x01,
    glyph 'G' 0x3e 0x41 0x49 0x49 0x7a,
    glyph 'H' 0x7f 0x08 0x08 0x08 0x7f,
    glyph 'I' 0x00 0x41 0x7f 0x41 0x00,
    glyph 'J' 0x20 0x40 0x41 0x3f 0x01,
    glyph 'K' 0x7f 0x08 0x14 0x22 0x41,
    glyph 'L' 0x7f 0x40 0x40 0x40 0x40,
    glyph 'M' 0x7f 0x02 0x0c 0x02 0x7f,
    glyph 'N' 0x7f 0x04 0x08 0x10 0x7f,
    glyph 'O' 0x3e 0x41 0x41 0x41 0x3e,
    glyph 'P' 0x7f 0x09 0x09 0x09 0x06,
    glyph 'Q' 0x3e 0x41 0x51 0x21 0x5e,
    glyph 'R' 0x7f 0x09 0x19 0x29 0x46,
    glyph 'S' 0x46 0x49 0x49 0x49 0x31,
    glyph 'T' 0x01 0x01 0x7f 0x01 0x01,
    glyph 'U' 0x3f 0x40 0x40 0x40 0x3f,
    glyph 'V' 0x1f 0x20 0x40 0x20 0x1f,
    glyph 'W' 0x3f 0x40 0x38 0x40 0x3f,
    glyph 'X' 0x63 0x14 0x08 0x14 0x63,
    glyph 'Y' 0x07 0x08 0x70 0x08 0x07,
    glyph 'Z' 0x61 0x51 0x49 0x45 0x43,
    glyph 'a' 0x20 0x54 0x54 0x54 0x78,
    glyph 'b' 0x7f 0x48 0x44 0x44 0x38,
    glyph 'c' 0x38 0x44 0x44 0x44 0x20,
    glyph 'd' 0x38 0x44 0x44 0x48 0x7f,
    glyph 'e' 0x38 0x54 0x54 0x54 0x18,
    glyph 'f' 0x08 0x7e 0x09 0x01 0x02,
    glyph 'g' 0x18 0xa4 0xa4 0xa4 0x7c,
    glyph 'h' 0x7f 0x08 0x04 0x04 0x78,
    glyph 'i' 0x00 0x44 0x7d 0x40 0x00,
    glyph 'j' 0x40 0x80 0x84 0x7d 0x00,
    glyph 'k' 0x7f 0x10 0x28 0x44 0x00,
    glyph 'l' 0x00 0x41 0x7f 0x40 0x00,
    glyph 'm' 0x7c 0x04 0x18 0x04 0x78,
    glyph 'n' 0x7c 0x08 0x04 0x04 0x78,
    glyph 'o' 0x38 0x44 0x44 0x44 0x38,
    glyph 'p' 0xfc 0x24 0x24 0x24 0x18,
    glyph 'q' 0x18 0x24 0x24 0x18 0xfc,
    glyph 'r' 0x7c 0x08 0x04 0x04 0x08,
    glyph 's' 0x48 0x54 0x54 0x54 0x24,
    glyph 't' 0x04 0x3f 0x44 0x40 0x20,
    glyph 'u' 0x3c 0x40 0x40 0x20 0x7c,
    glyph 'v' 0x1c 0x20 0x40 0x20 0x1c,
    glyph 'w' 0x3c 0x40 0x30 0x40 0x3c,
    glyph 'x' 0x44 0x28 0x10 0x28 0x44,
    glyph 'y' 0x1c 0xa0 0xa0 0xa0 0x7c,
    glyph 'z' 0x44 0x64 0x54 0x4c 0x44,
    glyph '{' 0x00 0x00 0x40 0x00 0x00,
    glyph '|' 0x00 0x20 0x50 0x20 0x00,
    glyph '}' 0x10 0x28 0x54 0x28 0x10,
    glyph '[' 0x1f 0x11 0x11 0x11 0x1f,
    glyph ']' 0x1f 0x11 0x15 0x11 0x1f,
    glyph '-' 0x08 0x08 0x08 0x08 0x08
  ]

/-- `get_bitmap`: the first entry for the character, or the first entry of all. -/
def getBitmap (c : UInt8) : Vector UInt8 5 :=
  match font5x7.find? fun entry => entry.ascii == c with
  | some entry => entry.bitMap
  | none => (font5x7.head (List.cons_ne_nil _ _)).bitMap

end Oled
end CarCleaner
