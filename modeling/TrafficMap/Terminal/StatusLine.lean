import TrafficMap.Engine
import TrafficMap.Terminal.Style
import TrafficMap.Traffic.Label

/-!
# The first and the last line of the screen

The header sums the appliance up. The status line tells how fresh the picture is, how often it is
refreshed, and which keys there are.
-/

namespace TrafficMap.Terminal

/-- An age in its two largest units: hours and minutes, minutes and seconds, or seconds alone. The
smaller of two units has two digits. -/
def ageText (millis : Nat) : String :=
  let seconds := millis / 1000
  let hours := seconds / 3600
  let minutes := seconds % 3600 / 60
  let two (n : Nat) : String := String.ofList (Decimal.padded 2 n)
  if 0 < hours then toString hours ++ "h " ++ two minutes ++ "m"
  else if 0 < minutes then toString minutes ++ "m " ++ two (seconds % 60) ++ "s"
  else toString seconds ++ "s"

/-- The figures of the whole appliance. -/
def headerLine (s : TopologySummary) : Line :=
  let separator : Span := { text := "  │  ", style := .dim }
  [{ text := " flowscope", style := .title },
    separator,
    { text := "⇅ ", style := .dim },
    { text := Label.rate Float s.totalBytesPerSecond, style := .value },
    separator,
    { text := toString s.activeConnections.toNat, style := .value },
    { text := " active connections", style := .dim },
    separator,
    { text := toString s.balancers, style := .value },
    { text := " load balancers", style := .dim },
    separator,
    { text := toString s.clients, style := .value },
    { text := " clients", style := .dim }]

/-- How fresh the picture is at a time. -/
def freshness (now : Nat) : LoadStatus → Span
  | .loading => { text := "◐ loading", style := .warning }
  | .live updated =>
    { text := "● live · updated " ++ ageText (now - updated) ++ " ago", style := .success }
  | .stale updated error =>
    { text := "◐ stale · updated " ++ ageText (now - updated) ++ " ago · " ++ error.message
      style := .warning }
  | .failed error => { text := "○ " ++ error.message, style := .failure }

/-- The keys and what they do. -/
def keyHints : List (String × String) :=
  [("r", "refresh"), ("p", "pause"), ("+/-", "speed"), ("Tab", "select"), ("q", "quit")]

/-- The status line at a time: how fresh the picture is, the time between refreshes in
milliseconds, the speed of the animation, and the keys. -/
def statusLine (now : Nat) (status : LoadStatus) (paused : Bool) (refreshMillis : Nat)
    (speed : Float) : Line :=
  let separator : Span := { text := " │ ", style := .dim }
  let refresh : Span :=
    if paused then { text := "auto-refresh paused", style := .warning }
    else { text := "every " ++ ageText refreshMillis, style := .dim }
  [{ text := " " }, freshness now status, separator, refresh, separator,
    { text := "speed " ++ Decimal.shortest speed ++ "×", style := .value }, separator] ++
    keyHints.flatMap fun (key, meaning) =>
      [{ text := key, style := .title }, { text := " " ++ meaning ++ "  ", style := .dim }]

end TrafficMap.Terminal
