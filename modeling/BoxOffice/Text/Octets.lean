set_option autoImplicit false

namespace BoxOffice

abbrev Octets := List UInt8

namespace Octets

def ofText (text : String) : Octets := text.toList.flatMap String.utf8EncodeChar

def toText? (octets : Octets) : Option String := String.fromUTF8? octets.toByteArray

theorem toByteArray_ofText (text : String) : (ofText text).toByteArray = text.toByteArray :=
  String.utf8Encode_toList

theorem toText?_ofText (text : String) : toText? (ofText text) = some text := by
  unfold toText? String.fromUTF8?
  rw [toByteArray_ofText, dif_pos text.isValidUTF8]
  rfl

theorem toText?_eq_some_iff {octets : Octets} {text : String} :
    toText? octets = some text ↔ octets = ofText text := by
  refine ⟨fun h => ?_, fun h => h ▸ toText?_ofText text⟩
  unfold toText? String.fromUTF8? at h
  split at h
  · next hvalid =>
    obtain rfl := Option.some.inj h
    exact List.toByteArray_inj.1 (toByteArray_ofText (String.fromUTF8 _ hvalid)).symm
  · cases h

end Octets

end BoxOffice
