import TrafficMap.Terminal.Style
import TrafficMap.Topology.Basic
import TrafficMap.Traffic.Label

/-!
# The details of a device

The lines of the panel that describes the selected device. Which figures are shown depends on what
kind of device it is.
-/

namespace TrafficMap.Terminal.Details

/-- The width of the column of field names. -/
def nameWidth : Nat := 12

/-- A field name, filled up with blanks. -/
def fieldName (name : String) : Span :=
  { text := " " ++ String.ofList (name.toList ++ List.replicate (nameWidth - name.length) ' ')
    style := .dim }

/-- A field of the panel. -/
def field (name value : String) (style : Style := .value) : Line :=
  [fieldName name, { text := value, style }]

/-- The figures that devices of a kind have. -/
def figures (kind : DeviceKind) (enabled : Bool) (facts : DeviceFacts) : List Line :=
  match kind with
  | .isp => []
  | .loadBalancer =>
    [field "Status" (if enabled then "enabled" else "disabled")] ++
      (facts.interface.map (field "Interface" ·)).toList ++
      (facts.contentionRatio.map fun r => field "Contention" (toString r.toNat)).toList ++
      [field "Connections" (toString facts.connections.toNat)] ++
      (facts.successRate.map fun r => field "Success" (Label.percent r)).toList
  | .gateway => [field "Active" (toString facts.activeConnections.toNat)]
  | .client _ =>
    [field "Connections" (toString facts.connections.toNat),
      field "Active" (toString facts.activeConnections.toNat)] ++
      (facts.assignedBalancer.map (field "Via" ·)).toList

/-- The bytes received and sent. -/
def totals (facts : DeviceFacts) : List Line :=
  match facts.transferred with
  | none => []
  | some (received, sent) =>
    [field "Received" (Label.size Float received), field "Sent" (Label.size Float sent)]

/-- The lines that describe a device. -/
def lines {α : Type} (d : Device α) : List Line :=
  [[{ text := " " ++ d.name, style := .title }],
    [{ text := " " ++ d.subtitle, style := .dim }],
    [],
    field "Type" d.kind.key,
    field "Download" ("↓ " ++ d.download) .success,
    field "Upload" ("↑ " ++ d.upload) .upload] ++
    figures d.kind d.enabled d.facts ++ totals d.facts

/-- The lines of the panel while no device is selected. -/
def placeholder : List Line :=
  [[], [{ text := " Tab", style := .title }, { text := " to select a device", style := .dim }]]

end TrafficMap.Terminal.Details
