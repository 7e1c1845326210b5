import Mathlib.Data.List.Basic
import Mathlib.Algebra.Group.Nat.Basic

namespace CaldavDatastore

namespace Md5

def K : Array UInt32 := #[
  0xd76aa478, 0xe8c7b756, 0x242070db, 0xc1bdceee, 0xf57c0faf, 0x4787c62a, 0xa8304613, 0xfd469501,
  0x698098d8, 0x8b44f7af, 0xffff5bb1, 0x895cd7be, 0x6b901122, 0xfd987193, 0xa679438e, 0x49b40821,
  0xf61e2562, 0xc040b340, 0x265e5a51, 0xe9b6c7aa, 0xd62f105d, 0x02441453, 0xd8a1e681, 0xe7d3fbc8,
  0x21e1cde6, 0xc33707d6, 0xf4d50d87, 0x455a14ed, 0xa9e3e905, 0xfcefa3f8, 0x676f02d9, 0x8d2a4c8a,
  0xfffa3942, 0x8771f681, 0x6d9d6122, 0xfde5380c, 0xa4beea44, 0x4bdecfa9, 0xf6bb4b60, 0xbebfbc70,
  0x289b7ec6, 0xeaa127fa, 0xd4ef3085, 0x04881d05, 0xd9d4d039, 0xe6db99e5, 0x1fa27cf8, 0xc4ac5665,
  0xf4292244, 0x432aff97, 0xab9423a7, 0xfc93a039, 0x655b59c3, 0x8f0ccc92, 0xffeff47d, 0x85845dd1,
  0x6fa87e4f, 0xfe2ce6e0, 0xa3014314, 0x4e0811a1, 0xf7537e82, 0xbd3af235, 0x2ad7d2bb, 0xeb86d391]

def shift (i : Nat) : UInt32 :=
  match i / 16, i % 4 with
  | 0, 0 => 7 | 0, 1 => 12 | 0, 2 => 17 | 0, _ => 22
  | 1, 0 => 5 | 1, 1 => 9 | 1, 2 => 14 | 1, _ => 20
  | 2, 0 => 4 | 2, 1 => 11 | 2, 2 => 16 | 2, _ => 23
  | _, 0 => 6 | _, 1 => 10 | _, 2 => 15 | _, _ => 21

def rotl (x c : UInt32) : UInt32 := (x <<< c) ||| (x >>> (32 - c))

abbrev Words := UInt32 × UInt32 × UInt32 × UInt32

def step (m : Nat → UInt32) (st : Words) (i : Nat) : Words :=
  let (a, b, c, d) := st
  let (f, g) :=
    if i < 16 then ((b &&& c) ||| (~~~b &&& d), i)
    else if i < 32 then ((d &&& b) ||| (~~~d &&& c), (5 * i + 1) % 16)
    else if i < 48 then (b ^^^ c ^^^ d, (3 * i + 5) % 16)
    else (c ^^^ (b ||| ~~~d), (7 * i) % 16)
  (d, b + rotl (f + a + K[i]! + m g) (shift i), b, c)

def word (block : List UInt8) (j : Nat) : UInt32 :=
  (List.range 4).foldl
    (fun w k => w ||| ((block.getD (4 * j + k) 0).toUInt32 <<< (8 * k).toUInt32)) 0

def compress (h : Words) (block : List UInt8) : Words :=
  let (a, b, c, d) := (List.range 64).foldl (step (word block)) h
  (h.1 + a, h.2.1 + b, h.2.2.1 + c, h.2.2.2 + d)

def pad (msg : List UInt8) : List UInt8 :=
  msg ++ [0x80] ++ List.replicate ((119 - msg.length % 64) % 64) 0 ++
    (List.range 8).map fun k => ((8 * msg.length) / 2 ^ (8 * k)).toUInt8

def hexDigit (n : Nat) : Char := "0123456789abcdef".get ⟨n⟩

def hexByte (b : UInt8) : List Char := [hexDigit (b.toNat / 16), hexDigit (b.toNat % 16)]

def wordBytes (w : UInt32) : List UInt8 :=
  (List.range 4).map fun k => (w >>> (8 * k).toUInt32).toUInt8

end Md5

open Md5 in
/-- `hashlib.md5(data).hexdigest()`. -/
def md5 (data : List UInt8) : String :=
  let padded := pad data
  let (a, b, c, d) := (List.range (padded.length / 64)).foldl
    (fun h i => compress h ((padded.drop (64 * i)).take 64))
    (0x67452301, 0xefcdab89, 0x98badcfe, 0x10325476)
  ⟨([a, b, c, d].flatMap wordBytes).flatMap hexByte⟩

theorem Md5.length_flatMap_hexByte (bs : List UInt8) :
    (bs.flatMap hexByte).length = 2 * bs.length := by
  induction bs with
  | nil => rfl
  | cons b bs ih => simp [List.flatMap_cons, hexByte, ih]; omega

theorem Md5.length_wordBytes (w : UInt32) : (wordBytes w).length = 4 := by
  simp only [wordBytes, List.length_map, List.length_range]

theorem md5_length (data : List UInt8) : (md5 data).length = 32 := by
  unfold md5
  dsimp only
  rw [String.length, Md5.length_flatMap_hexByte]
  simp only [List.flatMap_cons, List.flatMap_nil, List.length_append, Md5.length_wordBytes,
    List.length_nil]

end CaldavDatastore
