import Scorebook.Proofs.Intent.Written

/-!
# Fingerprints tell intents apart

A fingerprint is the digest of the octets of an intent's compact text, in hexadecimal. The text can
be read back, UTF-8 has one form for each text and hexadecimal one for each digest. So two intents
with the same fingerprint are equal, or their octets are a collision of the hash function.
-/

namespace Scorebook

namespace Digest.Sha256

/-- The octets from an index on are listed behind those before it. -/
theorem toList_loop_eq (octets : ByteArray) (i : Nat) (before : List UInt8) :
    ByteArray.toList.loop octets i before = before.reverse ++ octets.data.toList.drop i := by
  induction i, before using ByteArray.toList.loop.induct octets with
  | case1 i before hlt ih =>
    have hi : i < octets.data.toList.length := hlt
    have hget : octets.get! i = octets.data.toList[i] := getElem!_pos octets.data i hlt
    rw [ByteArray.toList.loop, if_pos hlt, ih, List.drop_eq_getElem_cons hi, hget]
    simp only [List.reverse_cons, List.append_assoc, List.singleton_append]
  | case2 i before hge =>
    have hle : octets.data.toList.length ≤ i := Nat.le_of_not_lt hge
    rw [ByteArray.toList.loop, if_neg hge, List.drop_eq_nil_of_le hle, List.append_nil]

/-- Texts are told apart by their octets. -/
theorem toUTF8_toList_injective {s t : String} (h : s.toUTF8.toList = t.toUTF8.toList) : s = t := by
  rw [ByteArray.toList, ByteArray.toList, toList_loop_eq, toList_loop_eq] at h
  exact String.toByteArray_inj.1 (ByteArray.ext (Array.toList_inj.1 h))

/-- Digits below sixteen are told apart. -/
theorem digitChar_injective :
    ∀ m < 16, ∀ n < 16, Nat.digitChar m = Nat.digitChar n → m = n := by
  decide

/-- Octets are told apart by their two digits. -/
theorem hexOctet_injective {p q : UInt8} (h : hexOctet p = hexOctet q) : p = q := by
  obtain ⟨hhigh, htail⟩ := List.cons.inj h
  obtain ⟨hlow, -⟩ := List.cons.inj htail
  have hp : p.toNat < 2 ^ 8 := p.toNat_lt
  have hq : q.toNat < 2 ^ 8 := q.toNat_lt
  have hdiv := digitChar_injective _ (by omega) _ (by omega) hhigh
  have hmod := digitChar_injective _ (by omega) _ (by omega) hlow
  exact UInt8.toNat_inj.1 (by omega)

/-- Octets in hexadecimal are told apart. -/
theorem flatMap_hexOctet_injective {ps qs : List UInt8}
    (h : ps.flatMap hexOctet = qs.flatMap hexOctet) : ps = qs := by
  induction ps generalizing qs with
  | nil =>
    cases qs with
    | nil => rfl
    | cons q qs => cases h
  | cons p ps ih =>
    cases qs with
    | nil => cases h
    | cons q qs =>
      rw [List.flatMap_cons, List.flatMap_cons] at h
      obtain ⟨hfirst, hrest⟩ := List.append_inj h rfl
      rw [hexOctet_injective hfirst, ih hrest]

/-- Two texts have the same digest in hexadecimal exactly if their octets have the same digest. -/
theorem hexDigest_eq_iff {s t : String} :
    hexDigest s = hexDigest t ↔ digest s.toUTF8.toList = digest t.toUTF8.toList := by
  constructor
  · intro h
    have hchars := congrArg String.toList h
    rw [hexDigest, hexDigest, String.toList_ofList, String.toList_ofList] at hchars
    exact flatMap_hexOctet_injective hchars
  · intro h
    rw [hexDigest, hexDigest, h]

end Digest.Sha256

namespace Intent

/-- The octets that are hashed for an intent. -/
def hashed (intent : Intent) : List UInt8 := intent.toJson.compact.toUTF8.toList

/-- Intents are told apart by their compact texts, since each is read back from its own. -/
theorem compact_injective {a b : Intent} (h : a.toJson.compact = b.toJson.compact) : a = b := by
  have ha := a.ofJson?_parse?_compact
  rw [h, b.ofJson?_parse?_compact] at ha
  exact (Option.some.inj ha).symm

end Intent

/-- Intents are told apart up to the hash function: no two have the same octets to be hashed, and
their fingerprints are the same exactly if the digests of these octets are. -/
theorem Intent.fingerprint_distinguishes (a b : Intent) :
    (a.hashed = b.hashed → a = b) ∧
      (a.fingerprint = b.fingerprint ↔
        Digest.Sha256.digest a.hashed = Digest.Sha256.digest b.hashed) := by
  refine ⟨fun h => ?_, Digest.Sha256.hexDigest_eq_iff⟩
  have htext : a.toJson.compact = b.toJson.compact := Digest.Sha256.toUTF8_toList_injective h
  exact compact_injective htext

end Scorebook
