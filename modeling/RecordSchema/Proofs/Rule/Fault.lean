import RecordSchema.Proofs.Rule.Expression.Notation
import RecordSchema.Proofs.Rule.Expression.Numeral
import RecordSchema.Proofs.Rule.Expression.Url
import RecordSchema.Proofs.Rule.Registry

/-!
# Checks that may fault

A few steps of the checks are not defined everywhere: a pattern is compiled, a byte is read at a
fixed index, a version is added to a digit, and the last label of a name is taken. Here each of
these steps may fault, and the checks are written with them. A check that was resolved never
faults, and answers what it answers without such steps (`judge_of_resolve`); one with a version
that no argument asks for may (`judgeUuid_fault`).
-/

namespace RecordSchema

open Pattern

-- ---------------------------------------------------------------------------
-- Steps
-- ---------------------------------------------------------------------------

inductive Fault where
  /-- A text is compiled that is no pattern. -/
  | pattern (source : String)
  /-- A list is read where it has no element. -/
  | index (index length : Nat)
  /-- A number is taken away from a smaller one. -/
  | underflow
  /-- A sum does not fit a byte. -/
  | overflow (sum : Nat)
  deriving DecidableEq

namespace Fault

def answer (source s : String) : Except Fault Bool :=
  match answer? source s with
  | some found => .ok found
  | none => .error (.pattern source)

def read (xs : List α) (i : Nat) : Except Fault α :=
  match xs[i]? with
  | some x => .ok x
  | none => .error (.index i xs.length)

def sub (n m : Nat) : Except Fault Nat := if m ≤ n then .ok (n - m) else .error .underflow

def last (xs : List α) : Except Fault α := (sub xs.length 1).bind (read xs)

def addBytes (n m : Nat) : Except Fault UInt8 :=
  if n + m < 0x100 then .ok (UInt8.ofNat (n + m)) else .error (.overflow (n + m))

/-- The second question is only asked when the answer to the first is yes. -/
def andThen (first : Bool) (second : Except Fault Bool) : Except Fault Bool :=
  if first then second else .ok false

@[simp] theorem andThen_ok (a b : Bool) : andThen a (.ok b) = .ok (a && b) := by
  cases a <;> rfl

theorem answer_of_describes (h : Describes source passes) (s : String) :
    answer source s = .ok (passes s.toList) := by
  rw [answer, h.answer?]

theorem read_of_getElem? {xs : List α} (h : xs[i]? = some x) : read xs i = .ok x := by
  rw [read, h]

theorem last_of_ne_nil {xs : List α} (h : xs ≠ []) : last xs = .ok (xs.getLast h) := by
  have hsub : sub xs.length 1 = .ok (xs.length - 1) := if_pos (List.length_pos_iff.mpr h)
  rw [last, hsub]
  exact read_of_getElem? (List.getLast?_eq_getElem? ▸ List.getLast?_eq_some_getLast h)

theorem addBytes_of_lt (h : n + m < 0x100) : addBytes n m = .ok (UInt8.ofNat (n + m)) := if_pos h

end Fault

open Fault

-- ---------------------------------------------------------------------------
-- Names and addresses
-- ---------------------------------------------------------------------------

namespace Host

def judge (cs : List Char) : Except Fault Bool :=
  let name := dropFinalDot cs
  let labels := Text.splitOn '.' name
  andThen (!name.isEmpty && Text.utf8Length name ≤ 253 && 2 ≤ labels.length)
    ((last labels).map fun label => labels.all isLabel && isTopLevel label)

theorem last_splitOn (mark : Char) (cs : List Char) : last (Text.splitOn mark cs) =
    .ok ((Text.splitOn mark cs).getLast (Text.splitOn_ne_nil mark cs)) :=
  last_of_ne_nil _

theorem judge_eq (cs : List Char) : judge cs = .ok (isFullyQualified cs) := by
  rw [judge, last_splitOn, Except.map, andThen_ok, isFullyQualified,
    List.getLast?_eq_some_getLast (Text.splitOn_ne_nil _ _), Option.any_some, Bool.and_assoc _ _
      (isTopLevel _)]

end Host

namespace Email

def judge (cs : List Char) : Except Fault Bool :=
  match Text.splitLast? '@' cs with
  | some (localPart, domain) =>
    andThen (isLocalPart localPart && domain.length ≤ 255
      && (isAsciiDomain domain || (Idna.toAscii? domain).any isAsciiDomain)) (Host.judge domain)
  | none => .ok false

theorem judge_eq (cs : List Char) : judge cs = .ok (isAddress cs) := by
  rw [judge, isAddress]
  rcases Text.splitLast? '@' cs with _ | ⟨localPart, domain⟩
  · rfl
  · dsimp only
    rw [Host.judge_eq, andThen_ok]

end Email

namespace Url

def judgeHost : Option Host → Except Fault Bool
  | some (.name ascii) => RecordSchema.Host.judge ascii
  | some _ => .ok true
  | none => .ok false

/-- The host is looked for once the shape is right. -/
def judge (s : String) : Except Fault Bool :=
  (answer Expression.urlText s).bind fun found =>
    match afterScheme? s.toList with
    | some rest => andThen found (judgeHost (hostOf? (strip rest)))
    | none => .ok false

theorem judge_eq (s : String) : judge s = .ok (isAddress s.toList) := by
  rw [judge, answer_of_describes Expression.describes_url, Except.bind,
    Expression.urlShape, isAddress]
  cases afterScheme? s.toList with
  | none => rfl
  | some rest =>
    rw [Option.any_some]
    dsimp only
    cases hostOf? (strip rest) with
    | none => rw [judgeHost, andThen_ok]
    | some host =>
      cases host with
      | name ascii => rw [judgeHost, Host.judge_eq, andThen_ok]
      | v4 | v6 => exact andThen_ok _ true

end Url

-- ---------------------------------------------------------------------------
-- Versions
-- ---------------------------------------------------------------------------

namespace Notation

def bytes (s : String) : List UInt8 := s.toUTF8.data.toList

def isVariantByte (b : UInt8) : Bool :=
  ['8', '9', 'a', 'b', 'A', 'B'].any fun c => b.toNat == c.toNat

/-- The version and the variant of a text that has the shape of a UUID. -/
def judgeVersion (v : Nat) (s : String) : Except Fault Bool :=
  (read (bytes s) versionIndex).bind fun found =>
    (addBytes '0'.toNat v).bind fun asked =>
      (if v == 4 || v == 5 then (read (bytes s) variantIndex).map isVariantByte else .ok true).map
        fun variant => found == asked && variant

def judgeUuid (version : Option Nat) (s : String) : Except Fault Bool :=
  (answer Expression.uuidText s).bind fun found =>
    andThen found (version.elim (.ok true) fun v => judgeVersion v s)

theorem IsUuidText.bytes_eq {s : String} (h : IsUuidText s.toList) :
    bytes s = s.toList.map fun c => UInt8.ofNat c.toNat := by
  have hbytes := Text.data_toUTF8_of_ascii h.ascii
  rwa [String.ofList_toList] at hbytes

theorem IsUuidText.length_bytes {s : String} (h : IsUuidText s.toList) : (bytes s).length = 36 := by
  rw [h.bytes_eq, List.length_map, h.length]

/-- The byte at a place is the character there. -/
theorem IsUuidText.read_bytes {s : String} (h : IsUuidText s.toList) (hget : c ∈ s.toList[i]?) :
    read (bytes s) i = .ok (UInt8.ofNat c.toNat) :=
  read_of_getElem? (by rw [h.bytes_eq, List.getElem?_map, hget, Option.map_some])

theorem isUuidText_of_answer {s : String} (h : answer Expression.uuidText s = .ok true) :
    IsUuidText s.toList := by
  rw [answer_of_describes Expression.describes_uuid, Except.ok.injEq] at h
  exact isUuidShape_iff.mp h

/-- A digit is one byte. -/
theorem toNat_byte (h : Text.isHexDigit c = true) : (UInt8.ofNat c.toNat).toNat = c.toNat :=
  UInt8.toNat_ofNat_of_lt'
    (Nat.lt_trans (of_decide_eq_true (isAscii_of_isHexDigit h)) (by decide))

theorem isVariantByte_eq (h : Text.isHexDigit c = true) :
    isVariantByte (UInt8.ofNat c.toNat) = isVariantDigit c := by
  rw [Bool.eq_iff_iff, isVariantByte, isVariantDigit, toNat_byte h, List.any_eq_true,
    List.contains_iff_mem]
  simp only [beq_iff_eq, Char.toNat_inj, exists_eq_right']

theorem version_beq (h : Text.isHexDigit c = true) (hv : '0'.toNat + v < 0x100) :
    (UInt8.ofNat c.toNat == UInt8.ofNat ('0'.toNat + v)) = (some c == some (versionDigit v)) := by
  have hsum : (UInt8.ofNat ('0'.toNat + v)).toNat = '0'.toNat + v := UInt8.toNat_ofNat_of_lt' hv
  have hdigit : (versionDigit v).toNat = '0'.toNat + v := by
    rw [versionDigit, Char.toNat_ofNat, if_pos (.inl (Nat.lt_trans hv (by decide)))]
  rw [Bool.eq_iff_iff, beq_iff_eq, beq_iff_eq, Option.some.injEq, ← UInt8.toNat_inj,
    ← Char.toNat_inj, toNat_byte h, hsum, hdigit]

theorem judgeVersion_eq {s : String} (h : IsUuidText s.toList) (hv : '0'.toNat + v < 0x100) :
    judgeVersion v s = .ok (s.toList[versionIndex]? == some (versionDigit v) &&
      (!(v == 4 || v == 5) || s.toList[variantIndex]?.any isVariantDigit)) := by
  obtain ⟨c, hc, hdigit⟩ := h.digit versionIndex List.mem_cons_self
  obtain ⟨d, hd, hdigit'⟩ := h.digit variantIndex (List.mem_cons_of_mem _ List.mem_cons_self)
  rw [judgeVersion, h.read_bytes hc, addBytes_of_lt hv, h.read_bytes hd, hc, hd]
  simp only [Except.bind, Except.map, version_beq hdigit hv, isVariantByte_eq hdigit',
    Option.any_some]
  cases v == 4 || v == 5 <;> rfl

theorem judgeUuid_eq (hversion : ∀ v ∈ version, '0'.toNat + v < 0x100) (s : String) :
    judgeUuid version s = .ok (isUuid version s.toList) := by
  rw [judgeUuid, answer_of_describes Expression.describes_uuid, Except.bind]
  cases version with
  | none => rw [Option.elim_none, andThen_ok, isUuid]
  | some v =>
    rw [Option.elim_some, isUuid]
    cases hshape : isUuidShape s.toList with
    | false => rfl
    | true => rw [judgeVersion_eq (isUuidShape_iff.mp hshape) (hversion v rfl), andThen_ok]

/-- A version beyond the allowed ones would be found out by the first UUID. -/
theorem judgeUuid_fault {s : String} (h : IsUuidText s.toList) (hv : 0x100 ≤ '0'.toNat + v) :
    judgeUuid (some v) s = .error (.overflow ('0'.toNat + v)) := by
  obtain ⟨c, hc, -⟩ := h.digit versionIndex List.mem_cons_self
  have hsum : addBytes '0'.toNat v = .error (.overflow ('0'.toNat + v)) :=
    if_neg (Nat.not_lt_of_le hv)
  rw [judgeUuid, answer_of_describes Expression.describes_uuid, isUuidShape_iff.mpr h]
  simp only [Except.bind, Option.elim_some, judgeVersion, h.read_bytes hc, hsum]
  rfl

end Notation

-- ---------------------------------------------------------------------------
-- Checks
-- ---------------------------------------------------------------------------

namespace Check

/-- The checks with every step that may fault; the others have none. -/
def judge (check : Check) (s : String) : Except Fault Bool :=
  match check with
  | .email => Email.judge s.toList
  | .url => Url.judge s
  | .fullyQualifiedName => Host.judge s.toList
  | .hexColor => answer Expression.hexColorText s
  | .hexadecimal => answer Expression.hexadecimalText s
  | .numeric => answer Expression.numericText s
  | .int => answer Expression.intText s
  | .float =>
    (answer Expression.floatText s).map (· && (Numeral.beforeExponent s.toList).any Char.isDigit)
  | .uuid version => Notation.judgeUuid version s
  | .macAddress => answer Expression.macAddressText s
  | .base64 =>
    andThen (!s.isEmpty && s.utf8ByteSize % 4 == 0) (answer Expression.base64Text s)
  | check => .ok (check.accepts s)

theorem judge_eq {check : Check} (h : ∀ v, check = .uuid (some v) → '0'.toNat + v < 0x100)
    (s : String) : check.judge s = .ok (check.accepts s) := by
  cases check with
  | email => exact Email.judge_eq s.toList
  | url => exact Url.judge_eq s
  | fullyQualifiedName => exact Host.judge_eq s.toList
  | hexColor => exact answer_of_describes Expression.describes_hexColor s
  | hexadecimal => exact answer_of_describes Expression.describes_hexadecimal s
  | numeric => exact answer_of_describes Expression.describes_numeric s
  | int => exact answer_of_describes Expression.describes_int s
  | float => rw [judge, answer_of_describes Expression.describes_float, Except.map]; rfl
  | uuid version => exact Notation.judgeUuid_eq (fun v hv => h v (congrArg uuid hv)) s
  | macAddress => exact answer_of_describes Expression.describes_macAddress s
  | base64 =>
    rw [judge, answer_of_describes Expression.describes_base64, andThen_ok, base64_accepts_eq]
  | _ => rfl

end Check

namespace Library

/-- The allowed versions are digits. -/
theorem version_fits (h : resolve name args = .ok (.uuid (some v))) : '0'.toNat + v < 0x100 := by
  obtain rfl : "isUUID" = name := name_of_resolve h
  obtain ⟨_, -, hallowed, ⟨⟩⟩ := (uuid_selectsVersion.resolves args _).mp h
  have hfits : ∀ v ∈ [1, 2, 3, 4, 5], '0'.toNat + v < 0x100 := by decide
  exact hfits v (hallowed v rfl)

theorem judge_of_resolve (h : resolve name args = .ok check) (s : String) :
    check.judge s = .ok (check.accepts s) := by
  refine Check.judge_eq ?_ s
  rintro v rfl
  exact version_fits h

end Library

end RecordSchema
