/-!
Maps of text to text, held as lists of pairs with the keys in byte order (the order of code
points, which is also the order of their UTF-8 bytes), each key once. Entering a key that is
already there replaces its value, so a map built from a list keeps the last value of a repeated
key.
-/

namespace StudioRental

/-- Text values by text key, keys in byte order, each once. -/
abbrev TextMap := List (String × String)

namespace TextMap

/-- Enter a key with its value, replacing an earlier value of the key. -/
def insert (k v : String) : TextMap → TextMap
  | [] => [(k, v)]
  | (k', v') :: rest =>
    if k = k' then (k, v) :: rest
    else if k < k' then (k, v) :: (k', v') :: rest
    else (k', v') :: insert k v rest

/-- The map of a list of entries; a repeated key keeps its last value. -/
def ofList (l : List (String × String)) : TextMap :=
  l.foldl (fun acc (k, v) => insert k v acc) []

end TextMap

end StudioRental
