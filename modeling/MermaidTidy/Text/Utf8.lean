import MermaidTidy.Text.Basic

/-!
# UTF-8

Bytes are read as UTF-8 strictly: no overlong form, no surrogate, nothing above U+10FFFF, nothing
cut short. `decodeUtf8` names the first offending bytes, `encodeUtf8` is its inverse.
-/

namespace MermaidTidy

/-- Why bytes are not UTF-8. -/
inductive Utf8Fault.Cause
  /-- No character starts with this byte. -/
  | start
  /-- A byte that should continue a character does not. -/
  | continuation
  /-- The bytes end within a character. -/
  | truncated
deriving DecidableEq, Repr

/-- The first place where bytes are not UTF-8: the offending bytes start at `position`, and `bytes`
holds all of them. -/
structure Utf8Fault where
  position : Nat
  bytes : List UInt8
  cause : Utf8Fault.Cause
deriving DecidableEq, Repr

namespace Text

/-- The two lowest hexadecimal digits of a byte. -/
def byteHex (b : UInt8) : Text :=
  let digits := Nat.toDigits 16 b.toNat
  List.replicate (2 - digits.length) '0' ++ digits

/-- Whether a byte continues a character. -/
def isContinuation (b : UInt8) : Bool := 0x80 ≤ b && b < 0xC0

/-- Whether `b` may come second in a character that starts with `a`: this is where overlong forms,
surrogates and code points above U+10FFFF are turned away. -/
def isSecond (a b : UInt8) : Bool :=
  isContinuation b && !(a == 0xE0 && b < 0xA0) && !(a == 0xED && 0xA0 ≤ b) &&
    !(a == 0xF0 && b < 0x90) && !(a == 0xF4 && 0x90 ≤ b)

/-- The low six bits of a continuation byte. -/
def payload (b : UInt8) : Nat := b.toNat % 64

/-- The length of a character by its first byte. -/
def utf8Length? (a : UInt8) : Option Nat :=
  if a < 0x80 then some 1
  else if a < 0xC2 then none
  else if a < 0xE0 then some 2
  else if a < 0xF0 then some 3
  else if a < 0xF5 then some 4
  else none

/-- The first character of the bytes `a :: r` and what follows it. -/
def utf8Step (a : UInt8) (r : List UInt8) :
    Except (Utf8Fault.Cause × List UInt8) (Char × List UInt8) :=
  match utf8Length? a, r with
  | none, _ => .error (.start, [a])
  | some 1, r => .ok (Char.ofNat a.toNat, r)
  | some 2, b :: r =>
    if isSecond a b then .ok (Char.ofNat ((a.toNat - 0xC0) * 64 + payload b), r)
    else .error (.continuation, [a])
  | some 3, b :: r =>
    if isSecond a b then
      match r with
      | [] => .error (.truncated, [a, b])
      | c :: r =>
        if isContinuation c then
          .ok (Char.ofNat (((a.toNat - 0xE0) * 64 + payload b) * 64 + payload c), r)
        else .error (.continuation, [a, b])
    else .error (.continuation, [a])
  | some _, b :: r =>
    if isSecond a b then
      match r with
      | [] => .error (.truncated, [a, b])
      | c :: r =>
        if isContinuation c then
          match r with
          | [] => .error (.truncated, [a, b, c])
          | d :: r =>
            if isContinuation d then
              .ok (Char.ofNat
                ((((a.toNat - 0xF0) * 64 + payload b) * 64 + payload c) * 64 + payload d), r)
            else .error (.continuation, [a, b, c])
        else .error (.continuation, [a, b])
    else .error (.continuation, [a])
  | some _, [] => .error (.truncated, [a])

theorem utf8Step_length {a : UInt8} {r rest : List UInt8} {c : Char}
    (h : utf8Step a r = .ok (c, rest)) : rest.length ≤ r.length := by
  unfold utf8Step at h
  repeat' (split at h)
  all_goals
    cases h <;> (try simp only [List.length_cons]) <;> omega

/-- Decoding of the bytes from `position` on. -/
def decodeUtf8From (position : Nat) (bs : List UInt8) : Except Utf8Fault Text :=
  match bs with
  | [] => .ok []
  | a :: r =>
    match h : utf8Step a r with
    | .error (cause, bytes) => .error ⟨position, bytes, cause⟩
    | .ok (c, rest) =>
      have := utf8Step_length h
      (decodeUtf8From (position + c.utf8Size) rest).map (c :: ·)
termination_by bs.length

/-- The text that bytes encode. -/
def decodeUtf8 (bs : List UInt8) : Except Utf8Fault Text := decodeUtf8From 0 bs

/-- The bytes of a text. -/
def encodeUtf8 (t : Text) : List UInt8 := t.flatMap String.utf8EncodeChar

end Text

namespace Utf8Fault

/-- Why the bytes are not UTF-8, in words. -/
def Cause.message : Cause → Text
  | .start => "invalid start byte".toList
  | .continuation => "invalid continuation byte".toList
  | .truncated => "unexpected end of data".toList

/-- The offending bytes with their position, and the cause. -/
def message (f : Utf8Fault) : Text :=
  let place :=
    match f.bytes with
    | [b] => "byte 0x".toList ++ Text.byteHex b ++ " in position ".toList ++
        Text.decimal f.position
    | bs => "bytes in position ".toList ++ Text.decimal f.position ++ "-".toList ++
        Text.decimal (f.position + bs.length - 1)
  "'utf-8' codec can't decode ".toList ++ place ++ ": ".toList ++ f.cause.message

end Utf8Fault

end MermaidTidy
