import RecordSchema.Proofs.Rule.Version

/-!
# Checks by themselves

Four checks can be asked without the registry. Three of them take no arguments and always give
the registry's answer. The check on addresses takes its version as it is, where the registry
judges it first, so an address passes under a version that the registry refuses
(`shortcuts_agree`).
-/

namespace RecordSchema

namespace Library

-- ---------------------------------------------------------------------------
-- Versions as arguments
-- ---------------------------------------------------------------------------

theorem int64Or_byte (v : UInt8) : Int64Or v.toNat := by
  have hlt := v.toNat_lt
  unfold Int64Or
  omega

/-- The arguments under which the registry is asked for a version. -/
def versionArgs : Option UInt8 → List Json
  | none => []
  | some v => [.number (.integer v.toNat (int64Or_byte v))]

theorem asks_versionArgs (version : Option UInt8) :
    Asks (versionArgs version) (version.map UInt8.toNat) := by
  cases version with
  | none => exact .absent
  | some v => exact .number _ rfl

/-- The versions that addresses have, and none for both of them. -/
def listed : List (Option UInt8) := [none, some 4, some 6]

theorem mem_listed_iff :
    version ∈ listed ↔ ∀ v ∈ version.map UInt8.toNat, v ∈ [4, 6] := by
  cases version with
  | none => exact iff_of_true (by decide) nofun
  | some v =>
    have h4 : v.toNat = 4 ↔ v = 4 := UInt8.toNat_inj (b := 4)
    have h6 : v.toNat = 6 ↔ v = 6 := UInt8.toNat_inj (b := 6)
    simp [listed, h4, h6]

theorem resolve_ip_of_mem (h : version ∈ listed) :
    resolve "isIP" (versionArgs version) = .ok (.ip (version.map UInt8.toNat)) := by
  have hversion : versionArg "isIP" [4, 6] (versionArgs version) = .ok (version.map UInt8.toNat) :=
    versionArg_of_asks (by decide) (asks_versionArgs version) (mem_listed_iff.mp h)
  exact congrArg (Except.map Check.ip) hversion

theorem resolve_ip_of_not_mem (h : version ∉ listed) :
    resolve "isIP" (versionArgs version) = .error (.arguments "isIP" (.version [4, 6])) := by
  have hrefused : versionArg "isIP" [4, 6] (versionArgs version) =
      .error (.arguments "isIP" (.version [4, 6])) := by
    refine versionArg_refused (by decide) fun ⟨other, hasks, hallowed⟩ => h ?_
    rw [mem_listed_iff, (asks_versionArgs version).unique hasks]
    exact hallowed
  exact congrArg (Except.map Check.ip) hrefused

/-- Without a judgement of the version, one that is not listed stands for both. -/
theorem isIp_of_not_mem (h : version ∉ listed) (s : String) :
    isIp s (version.map UInt8.toNat) = isIp s none := by
  rw [mem_listed_iff] at h
  show Check.isIp (version.map UInt8.toNat) s.toList = Check.isIp none s.toList
  unfold Check.isIp
  split
  · rename_i hv
    exact absurd (by simp [hv]) h
  · rename_i hv
    exact absurd (by simp [hv]) h
  · rfl

theorem shortcuts_agree (s : String) (args : List Json) (version : Option UInt8) :
    accepts "isEmail" s args = .ok (isEmail s) ∧
    accepts "isURL" s args = .ok (isUrl s) ∧
    accepts "isHexColor" s args = .ok (isHexColor s) ∧
    (∀ check, resolve "isIP" (versionArgs version) = .ok check →
      isIp s (version.map UInt8.toNat) = check.accepts s) ∧
    ((∃ check, resolve "isIP" (versionArgs version) = .ok check) ↔ version ∈ listed) ∧
    ((isIp s (version.map UInt8.toNat) = true →
        accepts "isIP" s (versionArgs version) = .ok true) ↔
      version ∈ listed ∨ isIp s none = false) := by
  refine ⟨rfl, rfl, rfl, ?_⟩
  by_cases h : version ∈ listed
  · have hresolve := resolve_ip_of_mem h
    have haccepts : accepts "isIP" s (versionArgs version) =
        .ok (isIp s (version.map UInt8.toNat)) := by
      rw [accepts, hresolve]
      rfl
    refine ⟨?_, iff_of_true ⟨_, hresolve⟩ h, iff_of_true ?_ (.inl h)⟩
    · intro check hcheck
      rw [hresolve] at hcheck
      cases hcheck
      rfl
    · intro hip
      rw [haccepts, hip]
  · have hresolve := resolve_ip_of_not_mem h
    have hrefused : ∀ check, resolve "isIP" (versionArgs version) ≠ .ok check := by
      intro check hcheck
      cases hresolve.symm.trans hcheck
    refine ⟨fun check hcheck => absurd hcheck (hrefused check),
      iff_of_false (fun ⟨check, hcheck⟩ => hrefused check hcheck) h, ?_⟩
    rw [isIp_of_not_mem h, accepts, hresolve]
    cases hip : isIp s none with
    | false => simp
    | true => simp [h, Except.map]

/-- An address passes under a version that the registry refuses. -/
theorem isIp_unlisted_version :
    isIp "127.0.0.1" ((some 5 : Option UInt8).map UInt8.toNat) = true ∧
    accepts "isIP" "127.0.0.1" (versionArgs (some 5)) =
      .error (.arguments "isIP" (.version [4, 6])) := by
  constructor
  · decide +kernel
  · rfl

end Library

end RecordSchema
