import TrafficMap.Device.Kind

/-!
# Kinds guessed from words

A table of words that betray the kind of a device. A short word counts only where it stands alone
between characters that are no letters or digits; a word of five or more letters counts anywhere.
-/

namespace TrafficMap.Keyword

/-- The words of every kind; an earlier row wins over a later one. -/
def table : List (ClientKind × List String) :=
  [(.console, ["playstation", "xbox", "nintendo", "switch", "console", "gaming", "steamdeck",
      "ps4", "ps5"]),
    (.tablet, ["ipad", "tablet", "kindle", "galaxy tab"]),
    (.tv, ["tv", "television", "roku", "chromecast", "bravia", "webos", "tizen", "firestick"]),
    (.phone, ["iphone", "android", "phone", "mobile", "pixel", "oneplus", "ios"]),
    (.laptop, ["macbook", "laptop", "thinkpad", "notebook", "chromebook", "xps"]),
    (.iot, ["iot", "espressif", "esp32", "esp8266", "nest", "echo", "alexa", "sonos", "camera",
      "thermostat", "tuya", "shelly", "hue", "printer", "speaker"]),
    (.desktop, ["desktop", "imac", "workstation", "pc", "windows", "macos", "linux", "computer"])]

/-- The least length of a word that counts inside other words. -/
def insideLength : Nat := 5

/-- The runs of letters and digits of a text. -/
def tokens (text : List Char) : List (List Char) :=
  Text.runs (fun c => !Text.isAsciiAlphanumeric c) text

/-- Whether a word counts as found in a text in lower case. -/
def found (text : List Char) (word : List Char) : Bool :=
  (tokens text).contains word || (insideLength ≤ word.length && Text.occursIn word text)

/-- The first kind with a word that is found in a text. -/
def kind? (text : List Char) : Option ClientKind :=
  let lower := Text.asciiLower text
  (table.find? (fun row => row.2.any (fun word => found lower word.toList))).map (·.1)

end TrafficMap.Keyword
