import CallGraph.Json.Reader
/-!
# Texts

The bytes of a text are read as that text; pieces put together are the pieces of the list of characters.
-/

namespace CallGraph

theorem Text.toList_join (separator : String) (pieces : List String) :
    (Text.join separator pieces).toList = separator.toList.intercalate (pieces.map String.toList) := by
  induction pieces with
  | nil => rfl
  | cons piece pieces ih =>
    cases pieces with
    | nil => simp [Text.join]
    | cons next pieces =>
      have hjoin : Text.join separator (piece :: next :: pieces) =
          piece ++ separator ++ Text.join separator (next :: pieces) := rfl
      rw [hjoin, String.toList_append, String.toList_append, ih]
      simp [List.intercalate]

theorem fromUTF8?_toUTF8 (s : String) : String.fromUTF8? s.toUTF8 = some s := by
  have hv : s.toUTF8.IsValidUTF8 := s.isValidUTF8
  unfold String.fromUTF8?
  rw [dif_pos hv]
  rfl

theorem toUTF8_append (s t : String) : (s ++ t).toUTF8 = s.toUTF8 ++ t.toUTF8 := String.toByteArray_append

theorem Utf8.symbols_toUTF8 (s : String) : Utf8.symbols s.toUTF8 = s.toList.map some := by
  rw [Utf8.symbols, fromUTF8?_toUTF8]

theorem Json.ofBytes?_toUTF8 (s : String) : Json.ofBytes? s.toUTF8 = Json.read? (s.toList.map some) := by
  rw [Json.ofBytes?, Utf8.symbols_toUTF8]

end CallGraph
