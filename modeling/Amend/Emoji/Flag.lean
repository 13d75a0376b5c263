import Amend.Text.Basic

/-!
# Flags

A region has a code of two letters, and its flag is the pair of regional indicator symbols for
those letters.  The flag of a part of a region is a black flag followed by tags that spell its code.
-/

namespace Amend.Emoji

/-- The regions under a character: their names and their codes. -/
def regions : Char → List (String × String)
  | 'a' =>
    [("afghanistan", "af"), ("albania", "al"), ("algeria", "dz"), ("american_samoa", "as"),
     ("andorra", "ad"), ("angola", "ao"), ("anguilla", "ai"), ("antarctica", "aq"),
     ("antigua_&_barbuda", "ag"), ("argentina", "ar"), ("armenia", "am"), ("aruba", "aw"),
     ("ascension_island", "ac"), ("australia", "au"), ("austria", "at"), ("azerbaijan", "az")]
  | 'b' =>
    [("bahamas", "bs"), ("bahrain", "bh"), ("bangladesh", "bd"), ("barbados", "bb"),
     ("belarus", "by"), ("belgium", "be"), ("belize", "bz"), ("benin", "bj"), ("bermuda", "bm"),
     ("bhutan", "bt"), ("bolivia", "bo"), ("bosnia_&_herzegovina", "ba"), ("botswana", "bw"),
     ("bouvet_island", "bv"), ("brazil", "br"), ("british_indian_ocean_territory", "io"),
     ("british_virgin_islands", "vg"), ("brunei", "bn"), ("bulgaria", "bg"),
     ("burkina_faso", "bf"), ("burundi", "bi")]
  | 'c' =>
    [("cambodia", "kh"), ("cameroon", "cm"), ("canada", "ca"), ("canary_islands", "ic"),
     ("cape_verde", "cv"), ("caribbean_netherlands", "bq"), ("cayman_islands", "ky"),
     ("central_african_republic", "cf"), ("ceuta_&_melilla", "ea"), ("chad", "td"),
     ("chile", "cl"), ("china", "cn"), ("christmas_island", "cx"), ("clipperton_island", "cp"),
     ("colombia", "co"), ("comoros", "km"), ("cook_islands", "ck"), ("costa_rica", "cr"),
     ("croatia", "hr"), ("cuba", "cu"), ("curaçao", "cw"), ("cyprus", "cy"),
     ("côte_d’ivoire", "ci")]
  | 'd' =>
    [("denmark", "dk"), ("diego_garcia", "dg"), ("djibouti", "dj"), ("dominica", "dm"),
     ("dominican_republic", "do")]
  | 'e' =>
    [("ecuador", "ec"), ("egypt", "eg"), ("el_salvador", "sv"), ("equatorial_guinea", "gq"),
     ("eritrea", "er"), ("estonia", "ee"), ("ethiopia", "et"), ("european_union", "eu")]
  | 'f' =>
    [("falkland_islands", "fk"), ("faroe_islands", "fo"), ("fiji", "fj"), ("finland", "fi"),
     ("france", "fr"), ("french_guiana", "gf"), ("french_polynesia", "pf"),
     ("french_southern_territories", "tf")]
  | 'g' =>
    [("gabon", "ga"), ("gambia", "gm"), ("georgia", "ge"), ("germany", "de"), ("ghana", "gh"),
     ("gibraltar", "gi"), ("greece", "gr"), ("greenland", "gl"), ("grenada", "gd"),
     ("guadeloupe", "gp"), ("guam", "gu"), ("guatemala", "gt"), ("guernsey", "gg"),
     ("guinea", "gn"), ("guyana", "gy")]
  | 'h' =>
    [("haiti", "ht"), ("heard_&_mcdonald_islands", "hm"), ("honduras", "hn"), ("hungary", "hu")]
  | 'i' =>
    [("iceland", "is"), ("india", "in"), ("indonesia", "id"), ("iran", "ir"), ("iraq", "iq"),
     ("ireland", "ie"), ("isle_of_man", "im"), ("israel", "il"), ("italy", "it")]
  | 'j' =>
    [("jamaica", "jm"), ("jersey", "je"), ("jordan", "jo")]
  | 'k' =>
    [("kazakhstan", "kz"), ("kenya", "ke"), ("kiribati", "ki"), ("kosovo", "xk"),
     ("kuwait", "kw"), ("kyrgyzstan", "kg")]
  | 'l' =>
    [("laos", "la"), ("latvia", "lv"), ("lebanon", "lb"), ("lesotho", "ls"), ("liberia", "lr"),
     ("libya", "ly"), ("liechtenstein", "li"), ("lithuania", "lt"), ("luxembourg", "lu")]
  | 'm' =>
    [("macedonia", "mk"), ("madagascar", "mg"), ("malawi", "mw"), ("malaysia", "my"),
     ("maldives", "mv"), ("mali", "ml"), ("malta", "mt"), ("marshall_islands", "mh"),
     ("martinique", "mq"), ("mauritania", "mr"), ("mauritius", "mu"), ("mayotte", "yt"),
     ("mexico", "mx"), ("micronesia", "fm"), ("moldova", "md"), ("monaco", "mc"),
     ("mongolia", "mn"), ("montenegro", "me"), ("montserrat", "ms"), ("morocco", "ma"),
     ("mozambique", "mz")]
  | 'n' =>
    [("namibia", "na"), ("nauru", "nr"), ("nepal", "np"), ("netherlands", "nl"),
     ("new_caledonia", "nc"), ("new_zealand", "nz"), ("nicaragua", "ni"), ("niger", "ne"),
     ("nigeria", "ng"), ("niue", "nu"), ("norfolk_island", "nf"), ("north_korea", "kp"),
     ("northern_mariana_islands", "mp"), ("norway", "no")]
  | 'o' =>
    [("oman", "om")]
  | 'p' =>
    [("pakistan", "pk"), ("palau", "pw"), ("palestinian_territories", "ps"), ("panama", "pa"),
     ("papua_new_guinea", "pg"), ("paraguay", "py"), ("peru", "pe"), ("philippines", "ph"),
     ("pitcairn_islands", "pn"), ("poland", "pl"), ("portugal", "pt"), ("puerto_rico", "pr")]
  | 'q' =>
    [("qatar", "qa")]
  | 'r' =>
    [("romania", "ro"), ("russia", "ru"), ("rwanda", "rw"), ("réunion", "re")]
  | 's' =>
    [("samoa", "ws"), ("san_marino", "sm"), ("saudi_arabia", "sa"), ("senegal", "sn"),
     ("serbia", "rs"), ("seychelles", "sc"), ("sierra_leone", "sl"), ("singapore", "sg"),
     ("sint_maarten", "sx"), ("slovakia", "sk"), ("slovenia", "si"), ("solomon_islands", "sb"),
     ("somalia", "so"), ("south_africa", "za"), ("south_georgia_&_south_sandwich_islands", "gs"),
     ("south_korea", "kr"), ("south_sudan", "ss"), ("spain", "es"), ("sri_lanka", "lk"),
     ("st._barthélemy", "bl"), ("st._helena", "sh"), ("st._kitts_&_nevis", "kn"),
     ("st._lucia", "lc"), ("st._martin", "mf"), ("st._pierre_&_miquelon", "pm"),
     ("st._vincent_&_grenadines", "vc"), ("sudan", "sd"), ("suriname", "sr"),
     ("svalbard_&_jan_mayen", "sj"), ("swaziland", "sz"), ("sweden", "se"), ("switzerland", "ch"),
     ("syria", "sy"), ("são_tomé_&_príncipe", "st")]
  | 't' =>
    [("taiwan", "tw"), ("tajikistan", "tj"), ("tanzania", "tz"), ("thailand", "th"),
     ("togo", "tg"), ("tokelau", "tk"), ("tonga", "to"), ("trinidad_&_tobago", "tt"),
     ("tristan_da_cunha", "ta"), ("tunisia", "tn"), ("turkmenistan", "tm"),
     ("turks_&_caicos_islands", "tc"), ("tuvalu", "tv")]
  | 'u' =>
    [("u.s._outlying_islands", "um"), ("u.s._virgin_islands", "vi"), ("uganda", "ug"),
     ("ukraine", "ua"), ("united_arab_emirates", "ae"), ("united_kingdom", "gb"),
     ("united_states", "us"), ("uruguay", "uy"), ("uzbekistan", "uz")]
  | 'v' =>
    [("vanuatu", "vu"), ("vatican_city", "va"), ("venezuela", "ve"), ("vietnam", "vn")]
  | 'w' =>
    [("wallis_&_futuna", "wf"), ("western_sahara", "eh")]
  | 'y' =>
    [("yemen", "ye")]
  | 'z' =>
    [("zambia", "zm"), ("zimbabwe", "zw")]
  | 'å' =>
    [("åland_islands", "ax")]
  | _ => []

/-- The parts of regions that have a flag: their names and their codes. -/
def subdivisions : List (String × String) :=
  [("england", "gbeng"), ("scotland", "gbsct"), ("wales", "gbwls")]

/-- The regional indicator symbol for a small letter. -/
def indicator (c : Char) : Char := Char.ofNat (0x1F1E6 + (c.toNat - 'a'.toNat))

/-- The tag for a character. -/
def tag (c : Char) : Char := Char.ofNat (0xE0000 + c.toNat)

/-- The tag that ends a sequence of tags. -/
def cancelTag : Char := Char.ofNat 0xE007F

/-- What stands behind a name in a list of entries. -/
def inList? (name : Text) (entries : List (String × String)) : Option Text :=
  let key := name.toString
  (entries.find? fun e => e.1 == key).map fun e => e.2.toList

/-- The entry of a name among those under its first character. -/
def inPage? (page : Char → List (String × String)) : Text → Option Text
  | [] => none
  | c :: cs => inList? (c :: cs) (page c)

/-- The flag of a region or of a part of one. -/
def flag? (name : Text) : Option Text :=
  match inPage? regions ((("flag_for_" : Text).isPrefixOf? name).getD name) with
  | some code => some (code.map indicator)
  | none => (inList? name subdivisions).map fun code => '🏴' :: code.map tag ++ [cancelTag]

/-- The regional indicator symbol that a name spells out. -/
def letter? (name : Text) : Option Text :=
  match ("regional_indicator_" : Text).isPrefixOf? name with
  | none => none
  | some rest =>
    match (("symbol_letter_" : Text).isPrefixOf? rest).getD rest with
    | [c] => if c.isLower then some [indicator c] else none
    | _ => none

end Amend.Emoji
