import TypedClient.Text.Split
import TypedClient.Url.Punycode

/-!
Contract: domain names, brought into their one written form.

Owns:
- the characters that stand for others, for nothing, or may not be in a domain;
- `Domain.normalized?`, the written form of a domain: lower case, labels beyond ASCII as digits.

Does not own:
- the composition of characters and marks, which is expected to be done;
- the order in which scripts may stand, and numbers that are addresses.
-/

namespace TypedClient.Url.Domain

/-- Whether a code point lies in one of some ranges. -/
def isWithin (ranges : List (Nat × Nat)) (code : Nat) : Bool :=
  ranges.any (fun range => range.1 ≤ code && code ≤ range.2)

/-- Code points that stand for nothing in a domain. -/
def ignored : List (Nat × Nat) := [
    (0xAD, 0xAD), (0x34F, 0x34F), (0x180B, 0x180D), (0x180F, 0x180F), (0x200B, 0x200B),
    (0x2060, 0x2060), (0x2064, 0x2064), (0xFE00, 0xFE0F), (0xFEFF, 0xFEFF), (0xE0100, 0xE01EF)]

/-- Code points that stand for a blank, which a domain may not have. -/
def blanks : List (Nat × Nat) := [
    (0xA0, 0xA0), (0xA8, 0xA8), (0xAF, 0xAF), (0xB4, 0xB4), (0xB8, 0xB8), (0x2000, 0x200A),
    (0x202F, 0x202F), (0x205F, 0x205F), (0x3000, 0x3000)]

/-- Code points that a domain may not have: controls, separators and directions, private use, and
those that are no characters. -/
def refused : List (Nat × Nat) := [
    (0x80, 0x9F), (0x378, 0x379), (0x61C, 0x61C), (0x1680, 0x1680), (0x180E, 0x180E),
    (0x200E, 0x200F), (0x2028, 0x202E), (0x2061, 0x2063), (0x2065, 0x206F), (0x2FF0, 0x2FFF),
    (0xE000, 0xF8FF), (0xFDD0, 0xFDEF), (0xFFF0, 0xFFFF), (0x1FFFE, 0x1FFFF), (0x2FFFE, 0x2FFFF),
    (0x3FFFE, 0xE00FF), (0xE01F0, 0x10FFFF)]

/-- Code points that may not begin a label, since they mark the character before them. -/
def marks : List (Nat × Nat) := [
    (0x300, 0x36F), (0x483, 0x489), (0x591, 0x5BD), (0x610, 0x61A), (0x64B, 0x65F),
    (0x900, 0x903), (0x93A, 0x93C), (0x93E, 0x94F), (0x1AB0, 0x1ACE), (0x1DC0, 0x1DFF),
    (0x20D0, 0x20F0), (0x302A, 0x302F), (0x3099, 0x309A), (0xFE20, 0xFE2F)]

/-- Runs of capital letters: first code point, last code point, distance between neighbours, and
what is added to reach the small letter. -/
def capitals : List (Nat × Nat × Nat × Nat) := [
    (0x41, 0x5A, 1, 32), (0xC0, 0xD6, 1, 32), (0xD8, 0xDE, 1, 32), (0x100, 0x12E, 2, 1),
    (0x132, 0x136, 2, 1), (0x139, 0x147, 2, 1), (0x14A, 0x176, 2, 1), (0x179, 0x17D, 2, 1),
    (0x1CD, 0x1DB, 2, 1), (0x1DE, 0x1EE, 2, 1), (0x1F8, 0x21E, 2, 1), (0x222, 0x232, 2, 1),
    (0x370, 0x372, 2, 1), (0x376, 0x376, 1, 1), (0x386, 0x386, 1, 38), (0x388, 0x38A, 1, 37),
    (0x38C, 0x38C, 1, 64), (0x38E, 0x38F, 1, 63), (0x391, 0x3A1, 1, 32), (0x3A3, 0x3AB, 1, 32),
    (0x3D8, 0x3EE, 2, 1), (0x400, 0x40F, 1, 80), (0x410, 0x42F, 1, 32), (0x460, 0x480, 2, 1),
    (0x48A, 0x4BE, 2, 1), (0x4C1, 0x4CD, 2, 1), (0x4D0, 0x52E, 2, 1), (0x531, 0x556, 1, 48),
    (0x1E00, 0x1E94, 2, 1), (0x1EA0, 0x1EFE, 2, 1), (0x24B6, 0x24CF, 1, 26),
    (0x10400, 0x10427, 1, 40)]

/-- Single code points that stand for others. -/
def replacements : List (Nat × List Nat) := [
    (0xAA, [0x61]), (0xB2, [0x32]), (0xB3, [0x33]), (0xB5, [0x3BC]), (0xB9, [0x31]),
    (0xBA, [0x6F]), (0x130, [0x69, 0x307]), (0x13F, [0x6C, 0xB7]), (0x140, [0x6C, 0xB7]),
    (0x149, [0x2BC, 0x6E]), (0x178, [0xFF]), (0x17F, [0x73]), (0x1E9E, [0x73, 0x73]),
    (0x2024, [0x2E]), (0x2025, [0x2E, 0x2E]), (0x2026, [0x2E, 0x2E, 0x2E]), (0x2122, [0x74, 0x6D]),
    (0x2126, [0x3C9]), (0x212A, [0x6B]), (0x212B, [0xE5]), (0x3002, [0x2E]), (0xFB00, [0x66, 0x66]),
    (0xFB01, [0x66, 0x69]), (0xFB02, [0x66, 0x6C]), (0xFF61, [0x2E])]

/-- What a character stands for in a domain. -/
def image? (character : Char) : Option (List Char) :=
  let code := character.toNat
  if isWithin ignored code then some []
  else if isWithin blanks code then some [' ']
  else if isWithin refused code then none
  else
    match replacements.find? (fun entry => entry.1 = code) with
    | some entry => some (entry.2.map Char.ofNat)
    | none =>
        if 0xFF01 ≤ code ∧ code ≤ 0xFF5E then some [(Char.ofNat (code - 0xFEE0)).toLower]
        else
          match capitals.find? (fun run =>
              run.1 ≤ code && code ≤ run.2.1 && (code - run.1) % run.2.2.1 = 0) with
          | some run => some [Char.ofNat (code + run.2.2.2)]
          | none => some [character]

/-- The ASCII characters that a domain may not have. -/
def isForbidden (character : Char) : Bool :=
  character.toNat ≤ 0x20 || character.toNat = 0x7F ||
    ['%', '#', '/', ':', '<', '>', '?', '@', '[', '\\', ']', '^', '|'].contains character

/-- Whether a label may be in a domain under its written form: it has characters beyond ASCII, each
of which stands for itself, and none of which marks a character before the label. -/
def isProper (label : List Char) : Bool :=
  label.any (fun character => !Punycode.isBasic character) &&
    label.all (fun character => image? character = some [character]) &&
    !(label.take 1).any (fun character => isWithin marks character.toNat)

/-- The written form of a label whose characters stand for themselves. -/
def labelForm? (label : List Char) : Option (List Char) :=
  match label with
  | 'x' :: 'n' :: '-' :: '-' :: digits => do
      let decoded ← Punycode.decode? digits
      if digits.all Punycode.isBasic && isProper decoded then some label else none
  | _ =>
      if label.all Punycode.isBasic then some label
      else if isProper label then
        some ("xn--".toList ++ Punycode.encode label)
      else none

/-- The written form of a domain. -/
def normalized? (domain : List Char) : Option (List Char) := do
  let images ← domain.mapM image?
  let labels ← (Text.splitWhere (· = '.') images.flatten).mapM labelForm?
  let written := ['.'].intercalate labels
  if written.any isForbidden then none else some written

end TypedClient.Url.Domain
