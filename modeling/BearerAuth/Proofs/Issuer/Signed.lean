import BearerAuth.Issuer.TokenBuilder
import BearerAuth.Proofs.Token.Encoding

/-!
# Signed tokens

A signed token is taken apart into the three segments that it was made of. Its header and its
claims are read back from them as they went in.
-/
namespace BearerAuth

open Json

namespace Bytes

theorem ofText_ne_nil {text : String} (h : text ≠ "") : ofText text ≠ [] := by
  intro hnil
  have htext : text? [] = some text := hnil ▸ text?_ofText text
  exact h (Option.some.inj (htext.symm.trans (text?_ofText "")))

end Bytes

theorem Json.Value.print_object_ne_empty (members : Members) : (object members).print ≠ "" := by
  intro hempty
  have hchars : (object members).printChars = [] := String.ofList_eq_empty_iff.mp hempty
  rw [printChars] at hchars
  cases hchars

theorem Crypto.Ed25519.sign_ne_nil (seed message : Bytes) : sign seed message ≠ [] := by
  intro hnil
  have hlength := congrArg List.length hnil
  simp [sign, Point.encode] at hlength

namespace SigningKey

variable (key : SigningKey) (typ kid : Option String) (claims : Members)

/-- A signed token in its segments. -/
def signed : CompactToken :=
  CompactToken.ofBytes (Bytes.ofText (Value.object (headerMembers typ kid)).print)
    (Bytes.ofText (Value.object claims).print)
    (Crypto.Ed25519.sign key.secret (Bytes.ofText (signingInput typ kid claims)))

theorem text_signed : (key.signed typ kid claims).text = key.sign typ kid claims := rfl

theorem signingInput_signed :
    (key.signed typ kid claims).signingInput = signingInput typ kid claims := rfl

theorem parse_sign {key : SigningKey} {typ kid : Option String} {claims : Members}
    (hsize : (key.sign typ kid claims).utf8ByteSize ≤ maxTokenBytes) :
    CompactToken.parse (key.sign typ kid claims) = .ok (key.signed typ kid claims) :=
  CompactToken.parse_text_ofBytes (Bytes.ofText_ne_nil (Value.print_object_ne_empty _))
    (Bytes.ofText_ne_nil (Value.print_object_ne_empty _)) (Crypto.Ed25519.sign_ne_nil _ _) hsize

/-- What a header that is written with these fields says. -/
def headerOf (typ kid : Option String) : Header := ⟨"EdDSA", kid.filter (· ≠ ""), typ⟩

theorem integral_headerMembers : Value.IntegralMembers (headerMembers typ kid) := by
  cases typ <;> cases kid <;> simp [headerMembers, Value.IntegralMembers, Value.Integral]

theorem ordered_headerMembers : Value.OrderedMembers (headerMembers typ kid) := by
  cases typ <;> cases kid <;> simp [headerMembers, Value.OrderedMembers, Value.Ordered]

theorem depth_headerMembers : (Value.object (headerMembers typ kid)).depth = 1 := by
  cases typ <;> cases kid <;> simp [headerMembers, Value.depth, Value.depthMembers]

/-- A field that is written is found again, wherever the order of keys puts it. -/
theorem get?_headerMembers (name : String) :
    (Members.ofPairs (headerMembers typ kid)).get? name =
      if name = "alg" then some (.string "EdDSA")
      else if name = "kid" then kid.map Value.string
      else if name = "typ" then typ.map Value.string
      else none := by
  cases typ <;> cases kid <;>
    simp only [headerMembers, Members.ofPairs, Option.map, Option.toList, List.nil_append,
      List.cons_append, List.append_nil, List.foldl_cons, List.foldl_nil, Members.get?_insert,
      Members.get?] <;>
    grind

theorem ofMembers_headerMembers :
    Header.ofMembers (Members.ofPairs (headerMembers typ kid)) = .ok (headerOf typ kid) := by
  have hstring (text : Option String) : (text.map Value.string).bind Value.string? = text := by
    cases text <;> rfl
  simp only [Header.ofMembers, get?_headerMembers, String.reduceEq, ite_true, ite_false, hstring]
  rfl

theorem unverifiedHeader_signed :
    (key.signed typ kid claims).unverifiedHeader = .ok (headerOf typ kid) := by
  have hread := Value.ofBytes?_printObject (integral_headerMembers typ kid)
    (ordered_headerMembers typ kid) (depth_headerMembers typ kid ▸ by decide)
  exact CompactToken.unverifiedHeader_eq_ok_iff.mpr ⟨_, CompactToken.holds_encode hread,
    Header.ofMembers_eq_ok_iff.mp (ofMembers_headerMembers typ kid)⟩

variable {claims}

theorem claims_signed (hplain : (Value.object claims).Plain)
    (hdepth : (Value.object claims).depth ≤ maxDepth) :
    (key.signed typ kid claims).claims = .ok claims :=
  (CompactToken.decodeSegment_eq_ok_iff .payload).mpr
    (CompactToken.holds_encode (Value.ofBytes?_print hplain hdepth))

end SigningKey

namespace TokenBuilder

theorem plain_issuedAt (seconds : Int64) : (Value.object (issuedAt seconds).claims).Plain :=
  Value.plain_ofPairs (by
    simp [Value.plain_string, Value.plain_array, Value.ofInt64, Value.plain_integer])

end TokenBuilder
end BearerAuth
