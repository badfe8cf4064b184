import ScreenQuery.Node
import ScreenQuery.Text.Utf8

/-!
# Content hash

* The hash of a screen is the 64-bit FNV-1a hash of a byte sequence that spells out what the user
  can see: for each element its path, class, resource id, text, description, bounds and flags.
* Each of these fields ends with the byte 0xff, which occurs in no UTF-8 text and no flag, so the
  sequence can be cut into its fields again.

`ofNodes` is `compute_content_hash`.
-/

namespace ScreenQuery.ContentHash

/-- The byte that ends a field. -/
def separator : UInt8 := 0xff

/-- One step of FNV-1a. -/
def step (hash : UInt64) (byte : UInt8) : UInt64 :=
  (hash ^^^ byte.toUInt64) * 0x00000100000001b3

/-- The 64-bit FNV-1a hash of a byte sequence. -/
def fnv1a (bytes : List UInt8) : UInt64 := bytes.foldl step 0xcbf29ce484222325

/-- The flags of an element as bytes, one per flag. -/
def flagBytes (node : Node) : List UInt8 :=
  Flag.all.map fun flag => if node.flag flag then 1 else 0

/-- The fields of an element that count for the hash. -/
def fields (node : Node) : List (List UInt8) :=
  [Text.bytes node.path, Text.bytes node.className, Text.bytes node.resourceId,
    Text.bytes node.text, Text.bytes node.description, Text.bytes node.bounds.toText,
    flagBytes node]

/-- The byte sequence that spells out a screen. -/
def encoding (nodes : List Node) : List UInt8 :=
  nodes.flatMap fun node => (fields node).flatMap fun field => field ++ [separator]

/-- The content hash of a screen. -/
def ofNodes (nodes : List Node) : UInt64 := fnv1a (encoding nodes)

end ScreenQuery.ContentHash
