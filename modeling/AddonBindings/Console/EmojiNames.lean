import AddonBindings.Console.EmojiSymbols

/-!
Contract: the names of emoji.

Owns:
- the names of sequences of characters;
- the names of people and hands, and their skin tones;
- the names of regions, whose flags are written with two letters;
- the characters that a name stands for.

Does not own: codes in a text, which are in `AddonBindings.Console.Emoji`.
-/

namespace AddonBindings.Console

/-- Names of sequences of characters, such as keycaps and families. -/
def sequenceNames : List (String × List Nat) := [
    ("bald_man", [0x1F468, 0x200D, 0x1F9B2]), ("bald_woman", [0x1F469, 0x200D, 0x1F9B2]),
    ("cocos_(keeling)_islands", [0x1F1E8, 0x1F1E8]), ("congo_-_brazzaville", [0x1F1E8, 0x1F1EC]),
    ("congo_-_kinshasa", [0x1F1E8, 0x1F1E9]),
    ("couple_with_heart_man_man", [0x1F468, 0x200D, 0x2764, 0xFE0F, 0x200D, 0x1F468]),
    ("couple_with_heart_woman_man", [0x1F469, 0x200D, 0x2764, 0xFE0F, 0x200D, 0x1F468]),
    ("couple_with_heart_woman_woman", [0x1F469, 0x200D, 0x2764, 0xFE0F, 0x200D, 0x1F469]),
    ("curly-haired_man", [0x1F468, 0x200D, 0x1F9B1]),
    ("curly-haired_woman", [0x1F469, 0x200D, 0x1F9B1]), ("czechia", [0x1F1E8, 0x1F1FF]),
    ("eight", [0x38, 0xFE0F, 0x20E3]),
    ("england", [0x1F3F4, 0xE0067, 0xE0062, 0xE0065, 0xE006E, 0xE0067, 0xE007F]),
    ("eye_in_speech_bubble", [0x1F441, 0xFE0F, 0x200D, 0x1F5E8, 0xFE0F]),
    ("family_man_boy", [0x1F468, 0x200D, 0x1F466]),
    ("family_man_boy_boy", [0x1F468, 0x200D, 0x1F466, 0x200D, 0x1F466]),
    ("family_man_girl", [0x1F468, 0x200D, 0x1F467]),
    ("family_man_girl_boy", [0x1F468, 0x200D, 0x1F467, 0x200D, 0x1F466]),
    ("family_man_girl_girl", [0x1F468, 0x200D, 0x1F467, 0x200D, 0x1F467]),
    ("family_man_man_boy", [0x1F468, 0x200D, 0x1F468, 0x200D, 0x1F466]),
    ("family_man_man_boy_boy", [0x1F468, 0x200D, 0x1F468, 0x200D, 0x1F466, 0x200D, 0x1F466]),
    ("family_man_man_girl", [0x1F468, 0x200D, 0x1F468, 0x200D, 0x1F467]),
    ("family_man_man_girl_boy", [0x1F468, 0x200D, 0x1F468, 0x200D, 0x1F467, 0x200D, 0x1F466]),
    ("family_man_man_girl_girl", [0x1F468, 0x200D, 0x1F468, 0x200D, 0x1F467, 0x200D, 0x1F467]),
    ("family_man_woman_boy", [0x1F468, 0x200D, 0x1F469, 0x200D, 0x1F466]),
    ("family_man_woman_boy_boy", [0x1F468, 0x200D, 0x1F469, 0x200D, 0x1F466, 0x200D, 0x1F466]),
    ("family_man_woman_girl", [0x1F468, 0x200D, 0x1F469, 0x200D, 0x1F467]),
    ("family_man_woman_girl_boy", [0x1F468, 0x200D, 0x1F469, 0x200D, 0x1F467, 0x200D, 0x1F466]),
    ("family_man_woman_girl_girl", [0x1F468, 0x200D, 0x1F469, 0x200D, 0x1F467, 0x200D, 0x1F467]),
    ("family_woman_boy", [0x1F469, 0x200D, 0x1F466]),
    ("family_woman_boy_boy", [0x1F469, 0x200D, 0x1F466, 0x200D, 0x1F466]),
    ("family_woman_girl", [0x1F469, 0x200D, 0x1F467]),
    ("family_woman_girl_boy", [0x1F469, 0x200D, 0x1F467, 0x200D, 0x1F466]),
    ("family_woman_girl_girl", [0x1F469, 0x200D, 0x1F467, 0x200D, 0x1F467]),
    ("family_woman_woman_boy", [0x1F469, 0x200D, 0x1F469, 0x200D, 0x1F466]),
    ("family_woman_woman_boy_boy", [0x1F469, 0x200D, 0x1F469, 0x200D, 0x1F466, 0x200D, 0x1F466]),
    ("family_woman_woman_girl", [0x1F469, 0x200D, 0x1F469, 0x200D, 0x1F467]),
    ("family_woman_woman_girl_boy", [0x1F469, 0x200D, 0x1F469, 0x200D, 0x1F467, 0x200D, 0x1F466]),
    ("family_woman_woman_girl_girl", [0x1F469, 0x200D, 0x1F469, 0x200D, 0x1F467, 0x200D, 0x1F467]),
    ("five", [0x35, 0xFE0F, 0x20E3]), ("flag_for_cocos__islands", [0x1F1E8, 0x1F1E8]),
    ("flag_for_congo____brazzaville", [0x1F1E8, 0x1F1EC]),
    ("flag_for_congo____kinshasa", [0x1F1E8, 0x1F1E9]),
    ("flag_for_czech_republic", [0x1F1E8, 0x1F1FF]),
    ("flag_for_guinea__bissau", [0x1F1EC, 0x1F1FC]), ("flag_for_hong_kong", [0x1F1ED, 0x1F1F0]),
    ("flag_for_japan", [0x1F1EF, 0x1F1F5]), ("flag_for_macau", [0x1F1F2, 0x1F1F4]),
    ("flag_for_myanmar", [0x1F1F2, 0x1F1F2]), ("flag_for_timor__leste", [0x1F1F9, 0x1F1F1]),
    ("flag_for_turkey", [0x1F1F9, 0x1F1F7]), ("four", [0x34, 0xFE0F, 0x20E3]),
    ("guinea-bissau", [0x1F1EC, 0x1F1FC]), ("hong_kong_sar_china", [0x1F1ED, 0x1F1F0]),
    ("keycap_#", [0x23, 0xFE0F, 0x20E3]), ("keycap_*", [0x2A, 0xFE0F, 0x20E3]),
    ("keycap_0", [0x30, 0xFE0F, 0x20E3]), ("keycap_1", [0x31, 0xFE0F, 0x20E3]),
    ("keycap_2", [0x32, 0xFE0F, 0x20E3]), ("keycap_3", [0x33, 0xFE0F, 0x20E3]),
    ("keycap_4", [0x34, 0xFE0F, 0x20E3]), ("keycap_5", [0x35, 0xFE0F, 0x20E3]),
    ("keycap_6", [0x36, 0xFE0F, 0x20E3]), ("keycap_7", [0x37, 0xFE0F, 0x20E3]),
    ("keycap_8", [0x38, 0xFE0F, 0x20E3]), ("keycap_9", [0x39, 0xFE0F, 0x20E3]),
    ("keycap_asterisk", [0x2A, 0x20E3]), ("keycap_digit_eight", [0x38, 0x20E3]),
    ("keycap_digit_five", [0x35, 0x20E3]), ("keycap_digit_four", [0x34, 0x20E3]),
    ("keycap_digit_nine", [0x39, 0x20E3]), ("keycap_digit_one", [0x31, 0x20E3]),
    ("keycap_digit_seven", [0x37, 0x20E3]), ("keycap_digit_six", [0x36, 0x20E3]),
    ("keycap_digit_three", [0x33, 0x20E3]), ("keycap_digit_two", [0x32, 0x20E3]),
    ("keycap_digit_zero", [0x30, 0x20E3]), ("keycap_number_sign", [0x23, 0x20E3]),
    ("kiss_man_man", [0x1F468, 0x200D, 0x2764, 0xFE0F, 0x200D, 0x1F48B, 0x200D, 0x1F468]),
    ("kiss_woman_man", [0x1F469, 0x200D, 0x2764, 0xFE0F, 0x200D, 0x1F48B, 0x200D, 0x1F468]),
    ("kiss_woman_woman", [0x1F469, 0x200D, 0x2764, 0xFE0F, 0x200D, 0x1F48B, 0x200D, 0x1F469]),
    ("macau_sar_china", [0x1F1F2, 0x1F1F4]), ("man_genie", [0x1F9DE, 0x200D, 0x2642, 0xFE0F]),
    ("man_in_manual_wheelchair", [0x1F468, 0x200D, 0x1F9BD]),
    ("man_in_motorized_wheelchair", [0x1F468, 0x200D, 0x1F9BC]),
    ("man_with_probing_cane", [0x1F468, 0x200D, 0x1F9AF]),
    ("man_zombie", [0x1F9DF, 0x200D, 0x2642, 0xFE0F]),
    ("men_with_bunny_ears", [0x1F46F, 0x200D, 0x2642, 0xFE0F]),
    ("men_wrestling", [0x1F93C, 0x200D, 0x2642, 0xFE0F]), ("myanmar_(burma)", [0x1F1F2, 0x1F1F2]),
    ("nine", [0x39, 0xFE0F, 0x20E3]), ("one", [0x31, 0xFE0F, 0x20E3]),
    ("people_holding_hands", [0x1F9D1, 0x200D, 0x1F91D, 0x200D, 0x1F9D1]),
    ("pirate_flag", [0x1F3F4, 0x200D, 0x2620, 0xFE0F]),
    ("rainbow_flag", [0x1F3F3, 0xFE0F, 0x200D, 0x1F308]),
    ("red-haired_man", [0x1F468, 0x200D, 0x1F9B0]),
    ("red-haired_woman", [0x1F469, 0x200D, 0x1F9B0]),
    ("scotland", [0x1F3F4, 0xE0067, 0xE0062, 0xE0073, 0xE0063, 0xE0074, 0xE007F]),
    ("service_dog", [0x1F415, 0x200D, 0x1F9BA]), ("seven", [0x37, 0xFE0F, 0x20E3]),
    ("six", [0x36, 0xFE0F, 0x20E3]), ("three", [0x33, 0xFE0F, 0x20E3]),
    ("timor-leste", [0x1F1F9, 0x1F1F1]), ("two", [0x32, 0xFE0F, 0x20E3]),
    ("united_nations", [0x1F1FA, 0x1F1F3]),
    ("wales", [0x1F3F4, 0xE0067, 0xE0062, 0xE0077, 0xE006C, 0xE0073, 0xE007F]),
    ("white-haired_man", [0x1F468, 0x200D, 0x1F9B3]),
    ("white-haired_woman", [0x1F469, 0x200D, 0x1F9B3]),
    ("woman_genie", [0x1F9DE, 0x200D, 0x2640, 0xFE0F]),
    ("woman_in_manual_wheelchair", [0x1F469, 0x200D, 0x1F9BD]),
    ("woman_in_motorized_wheelchair", [0x1F469, 0x200D, 0x1F9BC]),
    ("woman_with_probing_cane", [0x1F469, 0x200D, 0x1F9AF]),
    ("woman_zombie", [0x1F9DF, 0x200D, 0x2640, 0xFE0F]),
    ("women_with_bunny_ears", [0x1F46F, 0x200D, 0x2640, 0xFE0F]),
    ("women_wrestling", [0x1F93C, 0x200D, 0x2640, 0xFE0F]), ("zero", [0x30, 0xFE0F, 0x20E3])
  ]

/-- Names of people, hands and what people do.  Each of them has skin tones. -/
def peopleNames : List (String × List Nat) := [
    ("adult", [0x1F9D1]), ("baby", [0x1F476]), ("baby_angel", [0x1F47C]),
    ("backhand_index_pointing_down", [0x1F447]), ("backhand_index_pointing_left", [0x1F448]),
    ("backhand_index_pointing_right", [0x1F449]), ("backhand_index_pointing_up", [0x1F446]),
    ("bearded_person", [0x1F9D4]), ("blond-haired_man", [0x1F471, 0x200D, 0x2642, 0xFE0F]),
    ("blond-haired_person", [0x1F471]), ("blond-haired_woman", [0x1F471, 0x200D, 0x2640, 0xFE0F]),
    ("boy", [0x1F466]), ("breast-feeding", [0x1F931]), ("bride_with_veil", [0x1F470]),
    ("call_me_hand", [0x1F919]), ("child", [0x1F9D2]), ("clapping_hands", [0x1F44F]),
    ("construction_worker", [0x1F477]), ("crossed_fingers", [0x1F91E]), ("detective", [0x1F575]),
    ("ear", [0x1F442]), ("elf", [0x1F9DD]), ("fairy", [0x1F9DA]), ("flexed_biceps", [0x1F4AA]),
    ("folded_hands", [0x1F64F]), ("girl", [0x1F467]), ("guard", [0x1F482]),
    ("hand_with_fingers_splayed", [0x1F590]), ("horse_racing", [0x1F3C7]),
    ("index_pointing_up", [0x261D]), ("left-facing_fist", [0x1F91B]),
    ("love-you_gesture", [0x1F91F]), ("mage", [0x1F9D9]), ("man", [0x1F468]),
    ("man_artist", [0x1F468, 0x200D, 0x1F3A8]), ("man_astronaut", [0x1F468, 0x200D, 0x1F680]),
    ("man_biking", [0x1F6B4, 0x200D, 0x2642, 0xFE0F]),
    ("man_bouncing_ball", [0x26F9, 0xFE0F, 0x200D, 0x2642, 0xFE0F]),
    ("man_bowing", [0x1F647, 0x200D, 0x2642, 0xFE0F]),
    ("man_cartwheeling", [0x1F938, 0x200D, 0x2642, 0xFE0F]),
    ("man_climbing", [0x1F9D7, 0x200D, 0x2642, 0xFE0F]),
    ("man_construction_worker", [0x1F477, 0x200D, 0x2642, 0xFE0F]),
    ("man_cook", [0x1F468, 0x200D, 0x1F373]), ("man_dancing", [0x1F57A]),
    ("man_detective", [0x1F575, 0xFE0F, 0x200D, 0x2642, 0xFE0F]),
    ("man_elf", [0x1F9DD, 0x200D, 0x2642, 0xFE0F]),
    ("man_facepalming", [0x1F926, 0x200D, 0x2642, 0xFE0F]),
    ("man_factory_worker", [0x1F468, 0x200D, 0x1F3ED]),
    ("man_fairy", [0x1F9DA, 0x200D, 0x2642, 0xFE0F]), ("man_farmer", [0x1F468, 0x200D, 0x1F33E]),
    ("man_firefighter", [0x1F468, 0x200D, 0x1F692]),
    ("man_frowning", [0x1F64D, 0x200D, 0x2642, 0xFE0F]),
    ("man_gesturing_no", [0x1F645, 0x200D, 0x2642, 0xFE0F]),
    ("man_gesturing_ok", [0x1F646, 0x200D, 0x2642, 0xFE0F]),
    ("man_getting_haircut", [0x1F487, 0x200D, 0x2642, 0xFE0F]),
    ("man_getting_massage", [0x1F486, 0x200D, 0x2642, 0xFE0F]),
    ("man_golfing", [0x1F3CC, 0xFE0F, 0x200D, 0x2642, 0xFE0F]),
    ("man_guard", [0x1F482, 0x200D, 0x2642, 0xFE0F]),
    ("man_health_worker", [0x1F468, 0x200D, 0x2695, 0xFE0F]),
    ("man_in_lotus_position", [0x1F9D8, 0x200D, 0x2642, 0xFE0F]),
    ("man_in_steamy_room", [0x1F9D6, 0x200D, 0x2642, 0xFE0F]),
    ("man_in_suit_levitating", [0x1F574]), ("man_in_tuxedo", [0x1F935]),
    ("man_judge", [0x1F468, 0x200D, 0x2696, 0xFE0F]),
    ("man_juggling", [0x1F939, 0x200D, 0x2642, 0xFE0F]),
    ("man_lifting_weights", [0x1F3CB, 0xFE0F, 0x200D, 0x2642, 0xFE0F]),
    ("man_mage", [0x1F9D9, 0x200D, 0x2642, 0xFE0F]), ("man_mechanic", [0x1F468, 0x200D, 0x1F527]),
    ("man_mountain_biking", [0x1F6B5, 0x200D, 0x2642, 0xFE0F]),
    ("man_office_worker", [0x1F468, 0x200D, 0x1F4BC]),
    ("man_pilot", [0x1F468, 0x200D, 0x2708, 0xFE0F]),
    ("man_playing_handball", [0x1F93E, 0x200D, 0x2642, 0xFE0F]),
    ("man_playing_water_polo", [0x1F93D, 0x200D, 0x2642, 0xFE0F]),
    ("man_police_officer", [0x1F46E, 0x200D, 0x2642, 0xFE0F]),
    ("man_pouting", [0x1F64E, 0x200D, 0x2642, 0xFE0F]),
    ("man_raising_hand", [0x1F64B, 0x200D, 0x2642, 0xFE0F]),
    ("man_rowing_boat", [0x1F6A3, 0x200D, 0x2642, 0xFE0F]),
    ("man_running", [0x1F3C3, 0x200D, 0x2642, 0xFE0F]),
    ("man_scientist", [0x1F468, 0x200D, 0x1F52C]),
    ("man_shrugging", [0x1F937, 0x200D, 0x2642, 0xFE0F]),
    ("man_singer", [0x1F468, 0x200D, 0x1F3A4]), ("man_student", [0x1F468, 0x200D, 0x1F393]),
    ("man_surfing", [0x1F3C4, 0x200D, 0x2642, 0xFE0F]),
    ("man_swimming", [0x1F3CA, 0x200D, 0x2642, 0xFE0F]),
    ("man_teacher", [0x1F468, 0x200D, 0x1F3EB]), ("man_technologist", [0x1F468, 0x200D, 0x1F4BB]),
    ("man_tipping_hand", [0x1F481, 0x200D, 0x2642, 0xFE0F]),
    ("man_vampire", [0x1F9DB, 0x200D, 0x2642, 0xFE0F]),
    ("man_walking", [0x1F6B6, 0x200D, 0x2642, 0xFE0F]),
    ("man_wearing_turban", [0x1F473, 0x200D, 0x2642, 0xFE0F]),
    ("man_with_chinese_cap", [0x1F472]), ("mermaid", [0x1F9DC, 0x200D, 0x2640, 0xFE0F]),
    ("merman", [0x1F9DC, 0x200D, 0x2642, 0xFE0F]), ("merperson", [0x1F9DC]),
    ("middle_finger", [0x1F595]), ("mrs._claus", [0x1F936]), ("nail_polish", [0x1F485]),
    ("nose", [0x1F443]), ("ok_hand", [0x1F44C]), ("old_man", [0x1F474]), ("old_woman", [0x1F475]),
    ("older_adult", [0x1F9D3]), ("oncoming_fist", [0x1F44A]), ("open_hands", [0x1F450]),
    ("palms_up_together", [0x1F932]), ("person_biking", [0x1F6B4]),
    ("person_bouncing_ball", [0x26F9]), ("person_bowing", [0x1F647]),
    ("person_cartwheeling", [0x1F938]), ("person_climbing", [0x1F9D7]),
    ("person_facepalming", [0x1F926]), ("person_frowning", [0x1F64D]),
    ("person_gesturing_no", [0x1F645]), ("person_gesturing_ok", [0x1F646]),
    ("person_getting_haircut", [0x1F487]), ("person_getting_massage", [0x1F486]),
    ("person_golfing", [0x1F3CC]), ("person_in_bed", [0x1F6CC]),
    ("person_in_lotus_position", [0x1F9D8]), ("person_in_steamy_room", [0x1F9D6]),
    ("person_juggling", [0x1F939]), ("person_lifting_weights", [0x1F3CB]),
    ("person_mountain_biking", [0x1F6B5]), ("person_playing_handball", [0x1F93E]),
    ("person_playing_water_polo", [0x1F93D]), ("person_pouting", [0x1F64E]),
    ("person_raising_hand", [0x1F64B]), ("person_rowing_boat", [0x1F6A3]),
    ("person_running", [0x1F3C3]), ("person_shrugging", [0x1F937]), ("person_surfing", [0x1F3C4]),
    ("person_swimming", [0x1F3CA]), ("person_taking_bath", [0x1F6C0]),
    ("person_tipping_hand", [0x1F481]), ("person_walking", [0x1F6B6]),
    ("person_wearing_turban", [0x1F473]), ("police_officer", [0x1F46E]),
    ("pregnant_woman", [0x1F930]), ("prince", [0x1F934]), ("princess", [0x1F478]),
    ("raised_back_of_hand", [0x1F91A]), ("raised_fist", [0x270A]), ("raised_hand", [0x270B]),
    ("raising_hands", [0x1F64C]), ("right-facing_fist", [0x1F91C]), ("santa_claus", [0x1F385]),
    ("selfie", [0x1F933]), ("sign_of_the_horns", [0x1F918]), ("snowboarder", [0x1F3C2]),
    ("thumbs_down", [0x1F44E]), ("thumbs_up", [0x1F44D]), ("vampire", [0x1F9DB]),
    ("victory_hand", [0x270C]), ("vulcan_salute", [0x1F596]), ("waving_hand", [0x1F44B]),
    ("woman", [0x1F469]), ("woman_artist", [0x1F469, 0x200D, 0x1F3A8]),
    ("woman_astronaut", [0x1F469, 0x200D, 0x1F680]),
    ("woman_biking", [0x1F6B4, 0x200D, 0x2640, 0xFE0F]),
    ("woman_bouncing_ball", [0x26F9, 0xFE0F, 0x200D, 0x2640, 0xFE0F]),
    ("woman_bowing", [0x1F647, 0x200D, 0x2640, 0xFE0F]),
    ("woman_cartwheeling", [0x1F938, 0x200D, 0x2640, 0xFE0F]),
    ("woman_climbing", [0x1F9D7, 0x200D, 0x2640, 0xFE0F]),
    ("woman_construction_worker", [0x1F477, 0x200D, 0x2640, 0xFE0F]),
    ("woman_cook", [0x1F469, 0x200D, 0x1F373]), ("woman_dancing", [0x1F483]),
    ("woman_detective", [0x1F575, 0xFE0F, 0x200D, 0x2640, 0xFE0F]),
    ("woman_elf", [0x1F9DD, 0x200D, 0x2640, 0xFE0F]),
    ("woman_facepalming", [0x1F926, 0x200D, 0x2640, 0xFE0F]),
    ("woman_factory_worker", [0x1F469, 0x200D, 0x1F3ED]),
    ("woman_fairy", [0x1F9DA, 0x200D, 0x2640, 0xFE0F]),
    ("woman_farmer", [0x1F469, 0x200D, 0x1F33E]),
    ("woman_firefighter", [0x1F469, 0x200D, 0x1F692]),
    ("woman_frowning", [0x1F64D, 0x200D, 0x2640, 0xFE0F]),
    ("woman_gesturing_no", [0x1F645, 0x200D, 0x2640, 0xFE0F]),
    ("woman_gesturing_ok", [0x1F646, 0x200D, 0x2640, 0xFE0F]),
    ("woman_getting_haircut", [0x1F487, 0x200D, 0x2640, 0xFE0F]),
    ("woman_getting_massage", [0x1F486, 0x200D, 0x2640, 0xFE0F]),
    ("woman_golfing", [0x1F3CC, 0xFE0F, 0x200D, 0x2640, 0xFE0F]),
    ("woman_guard", [0x1F482, 0x200D, 0x2640, 0xFE0F]),
    ("woman_health_worker", [0x1F469, 0x200D, 0x2695, 0xFE0F]),
    ("woman_in_lotus_position", [0x1F9D8, 0x200D, 0x2640, 0xFE0F]),
    ("woman_in_steamy_room", [0x1F9D6, 0x200D, 0x2640, 0xFE0F]),
    ("woman_judge", [0x1F469, 0x200D, 0x2696, 0xFE0F]),
    ("woman_juggling", [0x1F939, 0x200D, 0x2640, 0xFE0F]),
    ("woman_lifting_weights", [0x1F3CB, 0xFE0F, 0x200D, 0x2640, 0xFE0F]),
    ("woman_mage", [0x1F9D9, 0x200D, 0x2640, 0xFE0F]),
    ("woman_mechanic", [0x1F469, 0x200D, 0x1F527]),
    ("woman_mountain_biking", [0x1F6B5, 0x200D, 0x2640, 0xFE0F]),
    ("woman_office_worker", [0x1F469, 0x200D, 0x1F4BC]),
    ("woman_pilot", [0x1F469, 0x200D, 0x2708, 0xFE0F]),
    ("woman_playing_handball", [0x1F93E, 0x200D, 0x2640, 0xFE0F]),
    ("woman_playing_water_polo", [0x1F93D, 0x200D, 0x2640, 0xFE0F]),
    ("woman_police_officer", [0x1F46E, 0x200D, 0x2640, 0xFE0F]),
    ("woman_pouting", [0x1F64E, 0x200D, 0x2640, 0xFE0F]),
    ("woman_raising_hand", [0x1F64B, 0x200D, 0x2640, 0xFE0F]),
    ("woman_rowing_boat", [0x1F6A3, 0x200D, 0x2640, 0xFE0F]),
    ("woman_running", [0x1F3C3, 0x200D, 0x2640, 0xFE0F]),
    ("woman_scientist", [0x1F469, 0x200D, 0x1F52C]),
    ("woman_shrugging", [0x1F937, 0x200D, 0x2640, 0xFE0F]),
    ("woman_singer", [0x1F469, 0x200D, 0x1F3A4]), ("woman_student", [0x1F469, 0x200D, 0x1F393]),
    ("woman_surfing", [0x1F3C4, 0x200D, 0x2640, 0xFE0F]),
    ("woman_swimming", [0x1F3CA, 0x200D, 0x2640, 0xFE0F]),
    ("woman_teacher", [0x1F469, 0x200D, 0x1F3EB]),
    ("woman_technologist", [0x1F469, 0x200D, 0x1F4BB]),
    ("woman_tipping_hand", [0x1F481, 0x200D, 0x2640, 0xFE0F]),
    ("woman_vampire", [0x1F9DB, 0x200D, 0x2640, 0xFE0F]),
    ("woman_walking", [0x1F6B6, 0x200D, 0x2640, 0xFE0F]),
    ("woman_wearing_turban", [0x1F473, 0x200D, 0x2640, 0xFE0F]),
    ("woman_with_headscarf", [0x1F9D5]), ("writing_hand", [0x270D])
  ]

def regionNames : List (String × Char × Char) := [
    ("afghanistan", 'A', 'F'), ("albania", 'A', 'L'), ("algeria", 'D', 'Z'),
    ("american_samoa", 'A', 'S'), ("andorra", 'A', 'D'), ("angola", 'A', 'O'),
    ("anguilla", 'A', 'I'), ("antarctica", 'A', 'Q'), ("antigua_&_barbuda", 'A', 'G'),
    ("argentina", 'A', 'R'), ("armenia", 'A', 'M'), ("aruba", 'A', 'W'),
    ("ascension_island", 'A', 'C'), ("australia", 'A', 'U'), ("austria", 'A', 'T'),
    ("azerbaijan", 'A', 'Z'), ("bahamas", 'B', 'S'), ("bahrain", 'B', 'H'),
    ("bangladesh", 'B', 'D'), ("barbados", 'B', 'B'), ("belarus", 'B', 'Y'),
    ("belgium", 'B', 'E'), ("belize", 'B', 'Z'), ("benin", 'B', 'J'), ("bermuda", 'B', 'M'),
    ("bhutan", 'B', 'T'), ("bolivia", 'B', 'O'), ("bosnia_&_herzegovina", 'B', 'A'),
    ("botswana", 'B', 'W'), ("bouvet_island", 'B', 'V'), ("brazil", 'B', 'R'),
    ("british_indian_ocean_territory", 'I', 'O'), ("british_virgin_islands", 'V', 'G'),
    ("brunei", 'B', 'N'), ("bulgaria", 'B', 'G'), ("burkina_faso", 'B', 'F'),
    ("burundi", 'B', 'I'), ("cambodia", 'K', 'H'), ("cameroon", 'C', 'M'), ("canada", 'C', 'A'),
    ("canary_islands", 'I', 'C'), ("cape_verde", 'C', 'V'), ("caribbean_netherlands", 'B', 'Q'),
    ("cayman_islands", 'K', 'Y'), ("central_african_republic", 'C', 'F'),
    ("ceuta_&_melilla", 'E', 'A'), ("chad", 'T', 'D'), ("chile", 'C', 'L'), ("china", 'C', 'N'),
    ("christmas_island", 'C', 'X'), ("clipperton_island", 'C', 'P'), ("colombia", 'C', 'O'),
    ("comoros", 'K', 'M'), ("cook_islands", 'C', 'K'), ("costa_rica", 'C', 'R'),
    ("croatia", 'H', 'R'), ("cuba", 'C', 'U'), ("curaçao", 'C', 'W'), ("cyprus", 'C', 'Y'),
    ("côte_d’ivoire", 'C', 'I'), ("denmark", 'D', 'K'), ("diego_garcia", 'D', 'G'),
    ("djibouti", 'D', 'J'), ("dominica", 'D', 'M'), ("dominican_republic", 'D', 'O'),
    ("ecuador", 'E', 'C'), ("egypt", 'E', 'G'), ("el_salvador", 'S', 'V'),
    ("equatorial_guinea", 'G', 'Q'), ("eritrea", 'E', 'R'), ("estonia", 'E', 'E'),
    ("ethiopia", 'E', 'T'), ("european_union", 'E', 'U'), ("falkland_islands", 'F', 'K'),
    ("faroe_islands", 'F', 'O'), ("fiji", 'F', 'J'), ("finland", 'F', 'I'), ("france", 'F', 'R'),
    ("french_guiana", 'G', 'F'), ("french_polynesia", 'P', 'F'),
    ("french_southern_territories", 'T', 'F'), ("gabon", 'G', 'A'), ("gambia", 'G', 'M'),
    ("georgia", 'G', 'E'), ("germany", 'D', 'E'), ("ghana", 'G', 'H'), ("gibraltar", 'G', 'I'),
    ("greece", 'G', 'R'), ("greenland", 'G', 'L'), ("grenada", 'G', 'D'),
    ("guadeloupe", 'G', 'P'), ("guam", 'G', 'U'), ("guatemala", 'G', 'T'), ("guernsey", 'G', 'G'),
    ("guinea", 'G', 'N'), ("guyana", 'G', 'Y'), ("haiti", 'H', 'T'),
    ("heard_&_mcdonald_islands", 'H', 'M'), ("honduras", 'H', 'N'), ("hungary", 'H', 'U'),
    ("iceland", 'I', 'S'), ("india", 'I', 'N'), ("indonesia", 'I', 'D'), ("iran", 'I', 'R'),
    ("iraq", 'I', 'Q'), ("ireland", 'I', 'E'), ("isle_of_man", 'I', 'M'), ("israel", 'I', 'L'),
    ("italy", 'I', 'T'), ("jamaica", 'J', 'M'), ("jersey", 'J', 'E'), ("jordan", 'J', 'O'),
    ("kazakhstan", 'K', 'Z'), ("kenya", 'K', 'E'), ("kiribati", 'K', 'I'), ("kosovo", 'X', 'K'),
    ("kuwait", 'K', 'W'), ("kyrgyzstan", 'K', 'G'), ("laos", 'L', 'A'), ("latvia", 'L', 'V'),
    ("lebanon", 'L', 'B'), ("lesotho", 'L', 'S'), ("liberia", 'L', 'R'), ("libya", 'L', 'Y'),
    ("liechtenstein", 'L', 'I'), ("lithuania", 'L', 'T'), ("luxembourg", 'L', 'U'),
    ("macedonia", 'M', 'K'), ("madagascar", 'M', 'G'), ("malawi", 'M', 'W'),
    ("malaysia", 'M', 'Y'), ("maldives", 'M', 'V'), ("mali", 'M', 'L'), ("malta", 'M', 'T'),
    ("marshall_islands", 'M', 'H'), ("martinique", 'M', 'Q'), ("mauritania", 'M', 'R'),
    ("mauritius", 'M', 'U'), ("mayotte", 'Y', 'T'), ("mexico", 'M', 'X'),
    ("micronesia", 'F', 'M'), ("moldova", 'M', 'D'), ("monaco", 'M', 'C'), ("mongolia", 'M', 'N'),
    ("montenegro", 'M', 'E'), ("montserrat", 'M', 'S'), ("morocco", 'M', 'A'),
    ("mozambique", 'M', 'Z'), ("namibia", 'N', 'A'), ("nauru", 'N', 'R'), ("nepal", 'N', 'P'),
    ("netherlands", 'N', 'L'), ("new_caledonia", 'N', 'C'), ("new_zealand", 'N', 'Z'),
    ("nicaragua", 'N', 'I'), ("niger", 'N', 'E'), ("nigeria", 'N', 'G'), ("niue", 'N', 'U'),
    ("norfolk_island", 'N', 'F'), ("north_korea", 'K', 'P'),
    ("northern_mariana_islands", 'M', 'P'), ("norway", 'N', 'O'), ("oman", 'O', 'M'),
    ("pakistan", 'P', 'K'), ("palau", 'P', 'W'), ("palestinian_territories", 'P', 'S'),
    ("panama", 'P', 'A'), ("papua_new_guinea", 'P', 'G'), ("paraguay", 'P', 'Y'),
    ("peru", 'P', 'E'), ("philippines", 'P', 'H'), ("pitcairn_islands", 'P', 'N'),
    ("poland", 'P', 'L'), ("portugal", 'P', 'T'), ("puerto_rico", 'P', 'R'), ("qatar", 'Q', 'A'),
    ("romania", 'R', 'O'), ("russia", 'R', 'U'), ("rwanda", 'R', 'W'), ("réunion", 'R', 'E'),
    ("samoa", 'W', 'S'), ("san_marino", 'S', 'M'), ("saudi_arabia", 'S', 'A'),
    ("senegal", 'S', 'N'), ("serbia", 'R', 'S'), ("seychelles", 'S', 'C'),
    ("sierra_leone", 'S', 'L'), ("singapore", 'S', 'G'), ("sint_maarten", 'S', 'X'),
    ("slovakia", 'S', 'K'), ("slovenia", 'S', 'I'), ("solomon_islands", 'S', 'B'),
    ("somalia", 'S', 'O'), ("south_africa", 'Z', 'A'),
    ("south_georgia_&_south_sandwich_islands", 'G', 'S'), ("south_korea", 'K', 'R'),
    ("south_sudan", 'S', 'S'), ("spain", 'E', 'S'), ("sri_lanka", 'L', 'K'),
    ("st._barthélemy", 'B', 'L'), ("st._helena", 'S', 'H'), ("st._kitts_&_nevis", 'K', 'N'),
    ("st._lucia", 'L', 'C'), ("st._martin", 'M', 'F'), ("st._pierre_&_miquelon", 'P', 'M'),
    ("st._vincent_&_grenadines", 'V', 'C'), ("sudan", 'S', 'D'), ("suriname", 'S', 'R'),
    ("svalbard_&_jan_mayen", 'S', 'J'), ("swaziland", 'S', 'Z'), ("sweden", 'S', 'E'),
    ("switzerland", 'C', 'H'), ("syria", 'S', 'Y'), ("são_tomé_&_príncipe", 'S', 'T'),
    ("taiwan", 'T', 'W'), ("tajikistan", 'T', 'J'), ("tanzania", 'T', 'Z'),
    ("thailand", 'T', 'H'), ("togo", 'T', 'G'), ("tokelau", 'T', 'K'), ("tonga", 'T', 'O'),
    ("trinidad_&_tobago", 'T', 'T'), ("tristan_da_cunha", 'T', 'A'), ("tunisia", 'T', 'N'),
    ("turkmenistan", 'T', 'M'), ("turks_&_caicos_islands", 'T', 'C'), ("tuvalu", 'T', 'V'),
    ("u.s._outlying_islands", 'U', 'M'), ("u.s._virgin_islands", 'V', 'I'), ("uganda", 'U', 'G'),
    ("ukraine", 'U', 'A'), ("united_arab_emirates", 'A', 'E'), ("united_kingdom", 'G', 'B'),
    ("united_states", 'U', 'S'), ("uruguay", 'U', 'Y'), ("uzbekistan", 'U', 'Z'),
    ("vanuatu", 'V', 'U'), ("vatican_city", 'V', 'A'), ("venezuela", 'V', 'E'),
    ("vietnam", 'V', 'N'), ("wallis_&_futuna", 'W', 'F'), ("western_sahara", 'E', 'H'),
    ("yemen", 'Y', 'E'), ("zambia", 'Z', 'M'), ("zimbabwe", 'Z', 'W'), ("åland_islands", 'A', 'X')
  ]

/-- What a name ends in for a skin tone, with the character of the tone. -/
def skinTones : List (String × Nat) :=
  [ ("_light_skin_tone", 0x1F3FB), ("_medium-light_skin_tone", 0x1F3FC),
    ("_medium_skin_tone", 0x1F3FD), ("_medium-dark_skin_tone", 0x1F3FE),
    ("_dark_skin_tone", 0x1F3FF) ]

/-- A person in a skin tone: the tone stands behind the first character, in place of a
mark that asks for the colourful form. -/
def toned (tone : Nat) : List Nat → List Nat
  | first :: 0xFE0F :: rest => first :: tone :: rest
  | first :: rest => first :: tone :: rest
  | [] => []

def flagLetter (letter : Char) : Char :=
  Char.ofNat (0x1F1E6 + (letter.toNat - 'A'.toNat))

/-- A name with an ending taken off, if it has this ending. -/
def withoutSuffix? (suffix name : List Char) : Option (List Char) :=
  if suffix.isSuffixOf name then some (name.take (name.length - suffix.length)) else none

/-- A name with a beginning taken off, if it has this beginning. -/
def withoutPrefix? (front name : List Char) : Option (List Char) :=
  if front.isPrefixOf name then some (name.drop front.length) else none

/-- The characters of people, with a skin tone if the name ends in one. -/
def person? (name : List Char) : Option (List Nat) :=
  match peopleNames.lookup (String.ofList name) with
  | some codes => some codes
  | none =>
      skinTones.findSome? fun (suffix, tone) => do
        let bare ← withoutSuffix? suffix.toList name
        return toned tone (← peopleNames.lookup (String.ofList bare))

/-- The flag of a region, which may be asked for by its bare name. -/
def flag? (name : List Char) : Option (List Char) := do
  let region := (withoutPrefix? "flag_for_".toList name).getD name
  let (first, second) ← regionNames.lookup (String.ofList region)
  return [flagLetter first, flagLetter second]

/-- The characters that a name in small letters stands for. -/
def emoji? (name : List Char) : Option (List Char) :=
  let characters (codes : List Nat) : List Char := codes.map Char.ofNat
  match symbolNames.lookup (String.ofList name) with
  | some character => some [character]
  | none =>
      match sequenceNames.lookup (String.ofList name) with
      | some codes => some (characters codes)
      | none =>
          match person? name with
          | some codes => some (characters codes)
          | none => flag? name

end AddonBindings.Console
