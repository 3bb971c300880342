/-!
# Names of pictures: people, hands and flags

Each entry holds a picture and its names.  A picture of skin is also named in five tones; the flag of a land is given by
the two letters of the land, and is also named with `flag_for_` before its name.
-/

namespace Stencil.Text.Picture

/-- Pictures of skin. -/
def skin : List String := [
  "☝ index_pointing_up;⛹ person_bouncing_ball;⛹\ufe0f\u200d♀\ufe0f woman_bouncing_ball",
  "⛹\ufe0f\u200d♂\ufe0f man_bouncing_ball;✊ raised_fist;✋ raised_hand;✌ victory_hand;✍ writing_hand;🎅 santa_claus",
  "🏂 snowboarder;🏃 person_running;🏃\u200d♀\ufe0f woman_running;🏃\u200d♂\ufe0f man_running;🏄 person_surfing",
  "🏄\u200d♀\ufe0f woman_surfing;🏄\u200d♂\ufe0f man_surfing;🏇 horse_racing;🏊 person_swimming",
  "🏊\u200d♀\ufe0f woman_swimming;🏊\u200d♂\ufe0f man_swimming;🏋 person_lifting_weights",
  "🏋\ufe0f\u200d♀\ufe0f woman_lifting_weights;🏋\ufe0f\u200d♂\ufe0f man_lifting_weights;🏌 person_golfing",
  "🏌\ufe0f\u200d♀\ufe0f woman_golfing;🏌\ufe0f\u200d♂\ufe0f man_golfing;👂 ear;👃 nose;👆 backhand_index_pointing_up",
  "👇 backhand_index_pointing_down;👈 backhand_index_pointing_left;👉 backhand_index_pointing_right;👊 oncoming_fist",
  "👋 waving_hand;👌 ok_hand;👍 thumbs_up;👎 thumbs_down;👏 clapping_hands;👐 open_hands;👦 boy;👧 girl;👨 man",
  "👨\u200d⚕\ufe0f man_health_worker;👨\u200d⚖\ufe0f man_judge;👨\u200d✈\ufe0f man_pilot;👨\u200d🌾 man_farmer",
  "👨\u200d🍳 man_cook;👨\u200d🎓 man_student;👨\u200d🎤 man_singer;👨\u200d🎨 man_artist;👨\u200d🏫 man_teacher",
  "👨\u200d🏭 man_factory_worker;👨\u200d💻 man_technologist;👨\u200d💼 man_office_worker;👨\u200d🔧 man_mechanic",
  "👨\u200d🔬 man_scientist;👨\u200d🚀 man_astronaut;👨\u200d🚒 man_firefighter;👩 woman",
  "👩\u200d⚕\ufe0f woman_health_worker;👩\u200d⚖\ufe0f woman_judge;👩\u200d✈\ufe0f woman_pilot;👩\u200d🌾 woman_farmer",
  "👩\u200d🍳 woman_cook;👩\u200d🎓 woman_student;👩\u200d🎤 woman_singer;👩\u200d🎨 woman_artist;👩\u200d🏫 woman_teacher",
  "👩\u200d🏭 woman_factory_worker;👩\u200d💻 woman_technologist;👩\u200d💼 woman_office_worker;👩\u200d🔧 woman_mechanic",
  "👩\u200d🔬 woman_scientist;👩\u200d🚀 woman_astronaut;👩\u200d🚒 woman_firefighter;👮 police_officer",
  "👮\u200d♀\ufe0f woman_police_officer;👮\u200d♂\ufe0f man_police_officer;👰 bride_with_veil;👱 blond-haired_person",
  "👱\u200d♀\ufe0f blond-haired_woman;👱\u200d♂\ufe0f blond-haired_man;👲 man_with_chinese_cap;👳 person_wearing_turban",
  "👳\u200d♀\ufe0f woman_wearing_turban;👳\u200d♂\ufe0f man_wearing_turban;👴 old_man;👵 old_woman;👶 baby",
  "👷 construction_worker;👷\u200d♀\ufe0f woman_construction_worker;👷\u200d♂\ufe0f man_construction_worker;👸 princess",
  "👼 baby_angel;💁 person_tipping_hand;💁\u200d♀\ufe0f woman_tipping_hand;💁\u200d♂\ufe0f man_tipping_hand;💂 guard",
  "💂\u200d♀\ufe0f woman_guard;💂\u200d♂\ufe0f man_guard;💃 woman_dancing;💅 nail_polish;💆 person_getting_massage",
  "💆\u200d♀\ufe0f woman_getting_massage;💆\u200d♂\ufe0f man_getting_massage;💇 person_getting_haircut",
  "💇\u200d♀\ufe0f woman_getting_haircut;💇\u200d♂\ufe0f man_getting_haircut;💪 flexed_biceps;🕴 man_in_suit_levitating",
  "🕵 detective;🕵\ufe0f\u200d♀\ufe0f woman_detective;🕵\ufe0f\u200d♂\ufe0f man_detective;🕺 man_dancing",
  "🖐 hand_with_fingers_splayed;🖕 middle_finger;🖖 vulcan_salute;🙅 person_gesturing_no",
  "🙅\u200d♀\ufe0f woman_gesturing_no;🙅\u200d♂\ufe0f man_gesturing_no;🙆 person_gesturing_ok",
  "🙆\u200d♀\ufe0f woman_gesturing_ok;🙆\u200d♂\ufe0f man_gesturing_ok;🙇 person_bowing;🙇\u200d♀\ufe0f woman_bowing",
  "🙇\u200d♂\ufe0f man_bowing;🙋 person_raising_hand;🙋\u200d♀\ufe0f woman_raising_hand",
  "🙋\u200d♂\ufe0f man_raising_hand;🙌 raising_hands;🙍 person_frowning;🙍\u200d♀\ufe0f woman_frowning",
  "🙍\u200d♂\ufe0f man_frowning;🙎 person_pouting;🙎\u200d♀\ufe0f woman_pouting;🙎\u200d♂\ufe0f man_pouting",
  "🙏 folded_hands;🚣 person_rowing_boat;🚣\u200d♀\ufe0f woman_rowing_boat;🚣\u200d♂\ufe0f man_rowing_boat",
  "🚴 person_biking;🚴\u200d♀\ufe0f woman_biking;🚴\u200d♂\ufe0f man_biking;🚵 person_mountain_biking",
  "🚵\u200d♀\ufe0f woman_mountain_biking;🚵\u200d♂\ufe0f man_mountain_biking;🚶 person_walking",
  "🚶\u200d♀\ufe0f woman_walking;🚶\u200d♂\ufe0f man_walking;🛀 person_taking_bath;🛌 person_in_bed;🤘 sign_of_the_horns",
  "🤙 call_me_hand;🤚 raised_back_of_hand;🤛 left-facing_fist;🤜 right-facing_fist;🤞 crossed_fingers;🤟 love-you_gesture",
  "🤦 person_facepalming;🤦\u200d♀\ufe0f woman_facepalming;🤦\u200d♂\ufe0f man_facepalming;🤰 pregnant_woman",
  "🤱 breast-feeding;🤲 palms_up_together;🤳 selfie;🤴 prince;🤵 man_in_tuxedo;🤶 mrs._claus;🤷 person_shrugging",
  "🤷\u200d♀\ufe0f woman_shrugging;🤷\u200d♂\ufe0f man_shrugging;🤸 person_cartwheeling",
  "🤸\u200d♀\ufe0f woman_cartwheeling;🤸\u200d♂\ufe0f man_cartwheeling;🤹 person_juggling",
  "🤹\u200d♀\ufe0f woman_juggling;🤹\u200d♂\ufe0f man_juggling;🤽 person_playing_water_polo",
  "🤽\u200d♀\ufe0f woman_playing_water_polo;🤽\u200d♂\ufe0f man_playing_water_polo;🤾 person_playing_handball",
  "🤾\u200d♀\ufe0f woman_playing_handball;🤾\u200d♂\ufe0f man_playing_handball;🧑 adult;🧒 child;🧓 older_adult",
  "🧔 bearded_person;🧕 woman_with_headscarf;🧖 person_in_steamy_room;🧖\u200d♀\ufe0f woman_in_steamy_room",
  "🧖\u200d♂\ufe0f man_in_steamy_room;🧗 person_climbing;🧗\u200d♀\ufe0f woman_climbing;🧗\u200d♂\ufe0f man_climbing",
  "🧘 person_in_lotus_position;🧘\u200d♀\ufe0f woman_in_lotus_position;🧘\u200d♂\ufe0f man_in_lotus_position;🧙 mage",
  "🧙\u200d♀\ufe0f woman_mage;🧙\u200d♂\ufe0f man_mage;🧚 fairy;🧚\u200d♀\ufe0f woman_fairy;🧚\u200d♂\ufe0f man_fairy",
  "🧛 vampire;🧛\u200d♀\ufe0f woman_vampire;🧛\u200d♂\ufe0f man_vampire;🧜 merperson;🧜\u200d♀\ufe0f mermaid",
  "🧜\u200d♂\ufe0f merman;🧝 elf;🧝\u200d♀\ufe0f woman_elf;🧝\u200d♂\ufe0f man_elf"]

/-- Lands with their letters. -/
def lands : List String := [
  "AC ascension_island;AD andorra;AE united_arab_emirates;AF afghanistan;AG antigua_&_barbuda;AI anguilla",
  "AL albania;AM armenia;AO angola;AQ antarctica;AR argentina;AS american_samoa;AT austria;AU australia;AW aruba",
  "AX åland_islands;AZ azerbaijan;BA bosnia_&_herzegovina;BB barbados;BD bangladesh;BE belgium;BF burkina_faso",
  "BG bulgaria;BH bahrain;BI burundi;BJ benin;BL st._barthélemy;BM bermuda;BN brunei;BO bolivia",
  "BQ caribbean_netherlands;BR brazil;BS bahamas;BT bhutan;BV bouvet_island;BW botswana;BY belarus;BZ belize",
  "CA canada;CF central_african_republic;CH switzerland;CI côte_d’ivoire;CK cook_islands;CL chile;CM cameroon",
  "CN china;CO colombia;CP clipperton_island;CR costa_rica;CU cuba;CV cape_verde;CW curaçao;CX christmas_island",
  "CY cyprus;DE germany;DG diego_garcia;DJ djibouti;DK denmark;DM dominica;DO dominican_republic;DZ algeria",
  "EA ceuta_&_melilla;EC ecuador;EE estonia;EG egypt;EH western_sahara;ER eritrea;ES spain;ET ethiopia",
  "EU european_union;FI finland;FJ fiji;FK falkland_islands;FM micronesia;FO faroe_islands;FR france;GA gabon",
  "GB united_kingdom;GD grenada;GE georgia;GF french_guiana;GG guernsey;GH ghana;GI gibraltar;GL greenland",
  "GM gambia;GN guinea;GP guadeloupe;GQ equatorial_guinea;GR greece;GS south_georgia_&_south_sandwich_islands",
  "GT guatemala;GU guam;GY guyana;HM heard_&_mcdonald_islands;HN honduras;HR croatia;HT haiti;HU hungary",
  "IC canary_islands;ID indonesia;IE ireland;IL israel;IM isle_of_man;IN india;IO british_indian_ocean_territory",
  "IQ iraq;IR iran;IS iceland;IT italy;JE jersey;JM jamaica;JO jordan;KE kenya;KG kyrgyzstan;KH cambodia",
  "KI kiribati;KM comoros;KN st._kitts_&_nevis;KP north_korea;KR south_korea;KW kuwait;KY cayman_islands",
  "KZ kazakhstan;LA laos;LB lebanon;LC st._lucia;LI liechtenstein;LK sri_lanka;LR liberia;LS lesotho;LT lithuania",
  "LU luxembourg;LV latvia;LY libya;MA morocco;MC monaco;MD moldova;ME montenegro;MF st._martin;MG madagascar",
  "MH marshall_islands;MK macedonia;ML mali;MN mongolia;MP northern_mariana_islands;MQ martinique;MR mauritania",
  "MS montserrat;MT malta;MU mauritius;MV maldives;MW malawi;MX mexico;MY malaysia;MZ mozambique;NA namibia",
  "NC new_caledonia;NE niger;NF norfolk_island;NG nigeria;NI nicaragua;NL netherlands;NO norway;NP nepal;NR nauru",
  "NU niue;NZ new_zealand;OM oman;PA panama;PE peru;PF french_polynesia;PG papua_new_guinea;PH philippines",
  "PK pakistan;PL poland;PM st._pierre_&_miquelon;PN pitcairn_islands;PR puerto_rico;PS palestinian_territories",
  "PT portugal;PW palau;PY paraguay;QA qatar;RE réunion;RO romania;RS serbia;RU russia;RW rwanda;SA saudi_arabia",
  "SB solomon_islands;SC seychelles;SD sudan;SE sweden;SG singapore;SH st._helena;SI slovenia",
  "SJ svalbard_&_jan_mayen;SK slovakia;SL sierra_leone;SM san_marino;SN senegal;SO somalia;SR suriname",
  "SS south_sudan;ST são_tomé_&_príncipe;SV el_salvador;SX sint_maarten;SY syria;SZ swaziland;TA tristan_da_cunha",
  "TC turks_&_caicos_islands;TD chad;TF french_southern_territories;TG togo;TH thailand;TJ tajikistan;TK tokelau",
  "TM turkmenistan;TN tunisia;TO tonga;TT trinidad_&_tobago;TV tuvalu;TW taiwan;TZ tanzania;UA ukraine;UG uganda",
  "UM u.s._outlying_islands;US united_states;UY uruguay;UZ uzbekistan;VA vatican_city;VC st._vincent_&_grenadines",
  "VE venezuela;VG british_virgin_islands;VI u.s._virgin_islands;VN vietnam;VU vanuatu;WF wallis_&_futuna;WS samoa",
  "XK kosovo;YE yemen;YT mayotte;ZA south_africa;ZM zambia;ZW zimbabwe"]

end Stencil.Text.Picture
