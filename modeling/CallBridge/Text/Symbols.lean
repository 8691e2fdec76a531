/-!
# Texts as they are read

A reader walks over a list of symbols. A symbol is a character, or `none` where a byte belongs to
no well-formed character; such a byte is no delimiter, so it only matters to whoever needs the
text around it. A text gives one symbol per character; bytes are decoded as far as they can be.
-/

namespace CallBridge

abbrev Symbol := Option Char

abbrev Symbols := List Symbol

namespace Symbols

def ofChars (cs : List Char) : Symbols := cs.map some

def ofText (s : String) : Symbols := ofChars s.toList

/-- The text, when every symbol is a character. -/
def toText? (s : Symbols) : Option String := (s.mapM id).map String.ofList

/-- How many bytes the symbols were read from. -/
def byteSize (s : Symbols) : Nat :=
  s.foldl (fun n x => n + (x.map Char.utf8Size).getD 1) 0

def isTail (b : UInt8) : Bool := 0x80 ≤ b && b ≤ 0xBF

/-- The code point that a lead byte and its tail bytes spell. -/
def assemble (lead : Nat) (tail : List UInt8) : Symbol :=
  some (Char.ofNat (tail.foldl (fun n b => n * 64 + (b.toNat - 0x80)) lead))

/-- Decodes one character: the symbol, and how many bytes after the first it takes. Overlong
forms, surrogates and code points above the last one are no characters. -/
def decodeHead (a : UInt8) (rest : List UInt8) : Symbol × Nat :=
  if a < 0x80 then (some (Char.ofNat a.toNat), 0)
  else match rest with
    | b :: more =>
        if 0xC2 ≤ a && a ≤ 0xDF && isTail b then (assemble (a.toNat - 0xC0) [b], 1)
        else match more with
          | c :: more =>
              let second :=
                if a == 0xE0 then 0xA0 ≤ b && b ≤ 0xBF
                else if a == 0xED then 0x80 ≤ b && b ≤ 0x9F
                else 0xE1 ≤ a && a ≤ 0xEF && isTail b
              if second && isTail c then (assemble (a.toNat - 0xE0) [b, c], 2)
              else match more with
                | d :: _ =>
                    let second :=
                      if a == 0xF0 then 0x90 ≤ b && b ≤ 0xBF
                      else if a == 0xF4 then 0x80 ≤ b && b ≤ 0x8F
                      else 0xF1 ≤ a && a ≤ 0xF3 && isTail b
                    if second && isTail c && isTail d then (assemble (a.toNat - 0xF0) [b, c, d], 3)
                    else (none, 0)
                | [] => (none, 0)
          | [] => (none, 0)
    | [] => (none, 0)

/-- Decodes bytes one character at a time; a byte that starts none is passed over alone. -/
def decode : List UInt8 → Symbols
  | [] => []
  | a :: rest =>
      let head := decodeHead a rest
      head.1 :: decode (rest.drop head.2)
termination_by bytes => bytes.length
decreasing_by exact Nat.lt_succ_of_le (List.length_drop ▸ Nat.sub_le _ _)

/-- The symbols of a byte string. -/
def ofBytes (bytes : ByteArray) : Symbols :=
  match String.fromUTF8? bytes with
  | some s => ofText s
  | none => decode bytes.toList

theorem ofBytes_toUTF8 (s : String) : ofBytes s.toUTF8 = ofText s := by
  have hvalid : String.fromUTF8? s.toUTF8 = some s := by
    rw [String.fromUTF8?, dif_pos (show s.toUTF8.IsValidUTF8 from s.isValidUTF8)]
    rfl
  rw [ofBytes, hvalid]

end Symbols

end CallBridge
