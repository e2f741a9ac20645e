import MetricsAgent.Value

/-!
# Layers of settings

Settings are given in layers, each a mapping whose values may be mappings in turn.  A later layer
goes over an earlier one: mappings under one key are joined, anything else replaces what was there.
-/

namespace MetricsAgent

mutual

/-- A value laid over the one that is there. -/
def Value.over (v : Value) (current : Option Value) : Value :=
  match v with
  | .map es =>
    match current with
    | some (.map base) => .map (Entries.merge base es)
    | _ => .map es
  | v => v

/-- A mapping with another one laid over it; new keys follow the old ones. -/
def Entries.merge (base : Entries) (es : List (Scalar × Value)) : Entries :=
  match es with
  | [] => base
  | (k, v) :: rest => Entries.merge (base.put k (v.over (base.get? k))) rest

end

/-- Several mappings laid over each other, the last on top. -/
def Entries.mergeAll (layers : List Entries) : Entries :=
  layers.foldl Entries.merge []

end MetricsAgent
