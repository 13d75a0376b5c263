import Amend.Emoji.Flag
import Amend.Emoji.Names

/-!
# People

Emoji of people are composed.  A man or a woman of a trade is joined to the sign of the trade; a
person who does something is joined to the sign of a gender.  Most of them, and hands, come in five
skin tones, and the tone follows the first character.

`Emoji.find?` is the emoji of a name.
-/

namespace Amend.Emoji

/-- The character that draws its neighbours into one. -/
def joiner : Char := '\u200d'

/-- The request for the picture form of the character before it. -/
def pictureForm : Char := '\ufe0f'

/-- The request for the text form of the character before it. -/
def textForm : Char := '\ufe0e'

/-- The trades, each with its sign. -/
def trades : List (String × String) :=
  [("artist", "🎨"), ("astronaut", "🚀"), ("cook", "🍳"), ("factory_worker", "🏭"), ("farmer", "🌾"),
   ("firefighter", "🚒"), ("health_worker", "⚕\ufe0f"), ("judge", "⚖\ufe0f"), ("mechanic", "🔧"),
   ("office_worker", "💼"), ("pilot", "✈\ufe0f"), ("scientist", "🔬"), ("singer", "🎤"),
   ("student", "🎓"), ("teacher", "🏫"), ("technologist", "💻")]

/-- What people do or are, each with its person. -/
def deeds : List (String × String) :=
  [("biking", "🚴"), ("bouncing_ball", "⛹\ufe0f"), ("bowing", "🙇"), ("cartwheeling", "🤸"),
   ("climbing", "🧗"), ("construction_worker", "👷"), ("detective", "🕵\ufe0f"), ("elf", "🧝"),
   ("facepalming", "🤦"), ("fairy", "🧚"), ("frowning", "🙍"), ("gesturing_no", "🙅"),
   ("gesturing_ok", "🙆"), ("getting_haircut", "💇"), ("getting_massage", "💆"),
   ("golfing", "🏌\ufe0f"), ("guard", "💂"), ("in_lotus_position", "🧘"), ("in_steamy_room", "🧖"),
   ("juggling", "🤹"), ("lifting_weights", "🏋\ufe0f"), ("mage", "🧙"), ("mountain_biking", "🚵"),
   ("playing_handball", "🤾"), ("playing_water_polo", "🤽"), ("police_officer", "👮"),
   ("pouting", "🙎"), ("raising_hand", "🙋"), ("rowing_boat", "🚣"), ("running", "🏃"),
   ("shrugging", "🤷"), ("surfing", "🏄"), ("swimming", "🏊"), ("tipping_hand", "💁"),
   ("vampire", "🧛"), ("walking", "🚶"), ("wearing_turban", "👳")]

/-- The genders that emoji of people tell apart. -/
inductive Gender where
  | man
  | woman
  deriving DecidableEq, Repr

namespace Gender

/-- What the names of the gender begin with. -/
def lead : Gender → Text
  | man => "man_"
  | woman => "woman_"

/-- A person of the gender. -/
def figure : Gender → Char
  | man => '👨'
  | woman => '👩'

/-- The sign of the gender. -/
def sign : Gender → Char
  | man => '♂'
  | woman => '♀'

/-- The emoji of a name without its lead. -/
def find? (gender : Gender) (name : Text) : Option Text :=
  match inList? name trades with
  | some sign => some (gender.figure :: joiner :: sign)
  | none => (inList? name deeds).map fun person => person ++ [joiner, gender.sign, pictureForm]

end Gender

/-- The emoji of a man or a woman. -/
def person? (name : Text) : Option Text :=
  match Gender.man.lead.isPrefixOf? name with
  | some rest => Gender.man.find? rest
  | none => (Gender.woman.lead.isPrefixOf? name).bind Gender.woman.find?

/-! ## Skin tones -/

/-- The skin tones. -/
inductive Tone where
  | light
  | mediumLight
  | medium
  | mediumDark
  | dark
  deriving DecidableEq, Repr

namespace Tone

/-- All skin tones. -/
def all : List Tone := [light, mediumLight, medium, mediumDark, dark]

/-- What the names with the tone end in. -/
def ending : Tone → Text
  | light => "_light_skin_tone"
  | mediumLight => "_medium-light_skin_tone"
  | medium => "_medium_skin_tone"
  | mediumDark => "_medium-dark_skin_tone"
  | dark => "_dark_skin_tone"

/-- The character of the tone. -/
def mark : Tone → Char
  | light => '🏻'
  | mediumLight => '🏼'
  | medium => '🏽'
  | mediumDark => '🏾'
  | dark => '🏿'

/-- Gives an emoji the tone: it stands behind the first character and takes the place of a request
for the picture form. -/
def paint (tone : Tone) : Text → Text
  | [] => []
  | c :: cs => c :: tone.mark :: (if cs.head? = some pictureForm then cs.drop 1 else cs)

end Tone

/-- The names in the dictionary that come in all tones, too. -/
def tonedNames : List String :=
  ["adult", "baby", "baby_angel", "backhand_index_pointing_down", "backhand_index_pointing_left",
   "backhand_index_pointing_right", "backhand_index_pointing_up", "bearded_person",
   "blond-haired_man", "blond-haired_person", "blond-haired_woman", "boy", "breast-feeding",
   "bride_with_veil", "call_me_hand", "child", "clapping_hands", "construction_worker",
   "crossed_fingers", "detective", "ear", "elf", "fairy", "flexed_biceps", "folded_hands", "girl",
   "guard", "hand_with_fingers_splayed", "horse_racing", "index_pointing_up", "left-facing_fist",
   "love-you_gesture", "mage", "man", "man_dancing", "man_in_suit_levitating", "man_in_tuxedo",
   "man_with_chinese_cap", "mermaid", "merman", "merperson", "middle_finger", "mrs._claus",
   "nail_polish", "nose", "ok_hand", "old_man", "old_woman", "older_adult", "oncoming_fist",
   "open_hands", "palms_up_together", "person_biking", "person_bouncing_ball", "person_bowing",
   "person_cartwheeling", "person_climbing", "person_facepalming", "person_frowning",
   "person_gesturing_no", "person_gesturing_ok", "person_getting_haircut",
   "person_getting_massage", "person_golfing", "person_in_bed", "person_in_lotus_position",
   "person_in_steamy_room", "person_juggling", "person_lifting_weights", "person_mountain_biking",
   "person_playing_handball", "person_playing_water_polo", "person_pouting",
   "person_raising_hand", "person_rowing_boat", "person_running", "person_shrugging",
   "person_surfing", "person_swimming", "person_taking_bath", "person_tipping_hand",
   "person_walking", "person_wearing_turban", "police_officer", "pregnant_woman", "prince",
   "princess", "raised_back_of_hand", "raised_fist", "raised_hand", "raising_hands",
   "right-facing_fist", "santa_claus", "selfie", "sign_of_the_horns", "snowboarder",
   "thumbs_down", "thumbs_up", "vampire", "victory_hand", "vulcan_salute", "waving_hand", "woman",
   "woman_dancing", "woman_with_headscarf", "writing_hand"]

/-- The emoji of a name that comes in all tones. -/
def tonable? (name : Text) : Option Text :=
  person? name <|> if tonedNames.contains name.toString then inPage? page name else none

/-- The emoji of a name that tells the tone. -/
def toned? (name : Text) : Option Text :=
  Tone.all.findSome? fun tone =>
    (tone.ending.isSuffixOf? name).bind fun base => (tonable? base).map tone.paint

/-- The emoji of a name. -/
def find? (name : Text) : Option Text :=
  inPage? page name <|> person? name <|> flag? name <|> letter? name <|> toned? name

end Amend.Emoji
