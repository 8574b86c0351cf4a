/-! # More names of pictures

The names from `man` up to `persevering_face` in the order of their characters.
-/

namespace CallSites.Text.Emoji

/-- Names of pictures, some in a row, and for each of them the code points it stands for. -/
def later : List (String × List (List Nat)) :=
  [("man man_and_woman_holding_hands man_artist man_artist_dark_skin_tone",
    [[128104], [128107], [128104, 8205, 127912], [128104, 127999, 8205, 127912]]),
   ("man_artist_light_skin_tone man_artist_medium-dark_skin_tone",
    [[128104, 127995, 8205, 127912], [128104, 127998, 8205, 127912]]),
   ("man_artist_medium-light_skin_tone man_artist_medium_skin_tone man_astronaut",
    [[128104, 127996, 8205, 127912], [128104, 127997, 8205, 127912], [128104, 8205, 128640]]),
   ("man_astronaut_dark_skin_tone man_astronaut_light_skin_tone",
    [[128104, 127999, 8205, 128640], [128104, 127995, 8205, 128640]]),
   ("man_astronaut_medium-dark_skin_tone man_astronaut_medium-light_skin_tone",
    [[128104, 127998, 8205, 128640], [128104, 127996, 8205, 128640]]),
   ("man_astronaut_medium_skin_tone man_biking",
    [[128104, 127997, 8205, 128640], [128692, 8205, 9794, 65039]]),
   ("man_biking_dark_skin_tone man_biking_light_skin_tone",
    [[128692, 127999, 8205, 9794, 65039], [128692, 127995, 8205, 9794, 65039]]),
   ("man_biking_medium-dark_skin_tone man_biking_medium-light_skin_tone",
    [[128692, 127998, 8205, 9794, 65039], [128692, 127996, 8205, 9794, 65039]]),
   ("man_biking_medium_skin_tone man_bouncing_ball",
    [[128692, 127997, 8205, 9794, 65039], [9977, 65039, 8205, 9794, 65039]]),
   ("man_bouncing_ball_dark_skin_tone man_bouncing_ball_light_skin_tone",
    [[9977, 127999, 8205, 9794, 65039], [9977, 127995, 8205, 9794, 65039]]),
   ("man_bouncing_ball_medium-dark_skin_tone man_bouncing_ball_medium-light_skin_tone",
    [[9977, 127998, 8205, 9794, 65039], [9977, 127996, 8205, 9794, 65039]]),
   ("man_bouncing_ball_medium_skin_tone man_bowing",
    [[9977, 127997, 8205, 9794, 65039], [128583, 8205, 9794, 65039]]),
   ("man_bowing_dark_skin_tone man_bowing_light_skin_tone",
    [[128583, 127999, 8205, 9794, 65039], [128583, 127995, 8205, 9794, 65039]]),
   ("man_bowing_medium-dark_skin_tone man_bowing_medium-light_skin_tone",
    [[128583, 127998, 8205, 9794, 65039], [128583, 127996, 8205, 9794, 65039]]),
   ("man_bowing_medium_skin_tone man_cartwheeling",
    [[128583, 127997, 8205, 9794, 65039], [129336, 8205, 9794, 65039]]),
   ("man_cartwheeling_dark_skin_tone man_cartwheeling_light_skin_tone",
    [[129336, 127999, 8205, 9794, 65039], [129336, 127995, 8205, 9794, 65039]]),
   ("man_cartwheeling_medium-dark_skin_tone man_cartwheeling_medium-light_skin_tone",
    [[129336, 127998, 8205, 9794, 65039], [129336, 127996, 8205, 9794, 65039]]),
   ("man_cartwheeling_medium_skin_tone man_climbing",
    [[129336, 127997, 8205, 9794, 65039], [129495, 8205, 9794, 65039]]),
   ("man_climbing_dark_skin_tone man_climbing_light_skin_tone",
    [[129495, 127999, 8205, 9794, 65039], [129495, 127995, 8205, 9794, 65039]]),
   ("man_climbing_medium-dark_skin_tone man_climbing_medium-light_skin_tone",
    [[129495, 127998, 8205, 9794, 65039], [129495, 127996, 8205, 9794, 65039]]),
   ("man_climbing_medium_skin_tone man_construction_worker",
    [[129495, 127997, 8205, 9794, 65039], [128119, 8205, 9794, 65039]]),
   ("man_construction_worker_dark_skin_tone man_construction_worker_light_skin_tone",
    [[128119, 127999, 8205, 9794, 65039], [128119, 127995, 8205, 9794, 65039]]),
   ("man_construction_worker_medium-dark_skin_tone man_construction_worker_medium-light_skin_tone",
    [[128119, 127998, 8205, 9794, 65039], [128119, 127996, 8205, 9794, 65039]]),
   ("man_construction_worker_medium_skin_tone man_cook man_cook_dark_skin_tone",
    [[128119, 127997, 8205, 9794, 65039], [128104, 8205, 127859], [128104, 127999, 8205, 127859]]),
   ("man_cook_light_skin_tone man_cook_medium-dark_skin_tone",
    [[128104, 127995, 8205, 127859], [128104, 127998, 8205, 127859]]),
   ("man_cook_medium-light_skin_tone man_cook_medium_skin_tone man_dancing",
    [[128104, 127996, 8205, 127859], [128104, 127997, 8205, 127859], [128378]]),
   ("man_dancing_dark_skin_tone man_dancing_light_skin_tone man_dancing_medium-dark_skin_tone",
    [[128378, 127999], [128378, 127995], [128378, 127998]]),
   ("man_dancing_medium-light_skin_tone man_dancing_medium_skin_tone man_dark_skin_tone",
    [[128378, 127996], [128378, 127997], [128104, 127999]]),
   ("man_detective man_detective_dark_skin_tone",
    [[128373, 65039, 8205, 9794, 65039], [128373, 127999, 8205, 9794, 65039]]),
   ("man_detective_light_skin_tone man_detective_medium-dark_skin_tone",
    [[128373, 127995, 8205, 9794, 65039], [128373, 127998, 8205, 9794, 65039]]),
   ("man_detective_medium-light_skin_tone man_detective_medium_skin_tone",
    [[128373, 127996, 8205, 9794, 65039], [128373, 127997, 8205, 9794, 65039]]),
   ("man_elf man_elf_dark_skin_tone",
    [[129501, 8205, 9794, 65039], [129501, 127999, 8205, 9794, 65039]]),
   ("man_elf_light_skin_tone man_elf_medium-dark_skin_tone",
    [[129501, 127995, 8205, 9794, 65039], [129501, 127998, 8205, 9794, 65039]]),
   ("man_elf_medium-light_skin_tone man_elf_medium_skin_tone",
    [[129501, 127996, 8205, 9794, 65039], [129501, 127997, 8205, 9794, 65039]]),
   ("man_facepalming man_facepalming_dark_skin_tone",
    [[129318, 8205, 9794, 65039], [129318, 127999, 8205, 9794, 65039]]),
   ("man_facepalming_light_skin_tone man_facepalming_medium-dark_skin_tone",
    [[129318, 127995, 8205, 9794, 65039], [129318, 127998, 8205, 9794, 65039]]),
   ("man_facepalming_medium-light_skin_tone man_facepalming_medium_skin_tone",
    [[129318, 127996, 8205, 9794, 65039], [129318, 127997, 8205, 9794, 65039]]),
   ("man_factory_worker man_factory_worker_dark_skin_tone man_factory_worker_light_skin_tone",
    [[128104, 8205, 127981], [128104, 127999, 8205, 127981], [128104, 127995, 8205, 127981]]),
   ("man_factory_worker_medium-dark_skin_tone man_factory_worker_medium-light_skin_tone",
    [[128104, 127998, 8205, 127981], [128104, 127996, 8205, 127981]]),
   ("man_factory_worker_medium_skin_tone man_fairy",
    [[128104, 127997, 8205, 127981], [129498, 8205, 9794, 65039]]),
   ("man_fairy_dark_skin_tone man_fairy_light_skin_tone",
    [[129498, 127999, 8205, 9794, 65039], [129498, 127995, 8205, 9794, 65039]]),
   ("man_fairy_medium-dark_skin_tone man_fairy_medium-light_skin_tone",
    [[129498, 127998, 8205, 9794, 65039], [129498, 127996, 8205, 9794, 65039]]),
   ("man_fairy_medium_skin_tone man_farmer man_farmer_dark_skin_tone",
    [[129498, 127997, 8205, 9794, 65039], [128104, 8205, 127806], [128104, 127999, 8205, 127806]]),
   ("man_farmer_light_skin_tone man_farmer_medium-dark_skin_tone",
    [[128104, 127995, 8205, 127806], [128104, 127998, 8205, 127806]]),
   ("man_farmer_medium-light_skin_tone man_farmer_medium_skin_tone man_firefighter",
    [[128104, 127996, 8205, 127806], [128104, 127997, 8205, 127806], [128104, 8205, 128658]]),
   ("man_firefighter_dark_skin_tone man_firefighter_light_skin_tone",
    [[128104, 127999, 8205, 128658], [128104, 127995, 8205, 128658]]),
   ("man_firefighter_medium-dark_skin_tone man_firefighter_medium-light_skin_tone",
    [[128104, 127998, 8205, 128658], [128104, 127996, 8205, 128658]]),
   ("man_firefighter_medium_skin_tone man_frowning",
    [[128104, 127997, 8205, 128658], [128589, 8205, 9794, 65039]]),
   ("man_frowning_dark_skin_tone man_frowning_light_skin_tone",
    [[128589, 127999, 8205, 9794, 65039], [128589, 127995, 8205, 9794, 65039]]),
   ("man_frowning_medium-dark_skin_tone man_frowning_medium-light_skin_tone",
    [[128589, 127998, 8205, 9794, 65039], [128589, 127996, 8205, 9794, 65039]]),
   ("man_frowning_medium_skin_tone man_genie",
    [[128589, 127997, 8205, 9794, 65039], [129502, 8205, 9794, 65039]]),
   ("man_gesturing_no man_gesturing_no_dark_skin_tone",
    [[128581, 8205, 9794, 65039], [128581, 127999, 8205, 9794, 65039]]),
   ("man_gesturing_no_light_skin_tone man_gesturing_no_medium-dark_skin_tone",
    [[128581, 127995, 8205, 9794, 65039], [128581, 127998, 8205, 9794, 65039]]),
   ("man_gesturing_no_medium-light_skin_tone man_gesturing_no_medium_skin_tone",
    [[128581, 127996, 8205, 9794, 65039], [128581, 127997, 8205, 9794, 65039]]),
   ("man_gesturing_ok man_gesturing_ok_dark_skin_tone",
    [[128582, 8205, 9794, 65039], [128582, 127999, 8205, 9794, 65039]]),
   ("man_gesturing_ok_light_skin_tone man_gesturing_ok_medium-dark_skin_tone",
    [[128582, 127995, 8205, 9794, 65039], [128582, 127998, 8205, 9794, 65039]]),
   ("man_gesturing_ok_medium-light_skin_tone man_gesturing_ok_medium_skin_tone",
    [[128582, 127996, 8205, 9794, 65039], [128582, 127997, 8205, 9794, 65039]]),
   ("man_getting_haircut man_getting_haircut_dark_skin_tone",
    [[128135, 8205, 9794, 65039], [128135, 127999, 8205, 9794, 65039]]),
   ("man_getting_haircut_light_skin_tone man_getting_haircut_medium-dark_skin_tone",
    [[128135, 127995, 8205, 9794, 65039], [128135, 127998, 8205, 9794, 65039]]),
   ("man_getting_haircut_medium-light_skin_tone man_getting_haircut_medium_skin_tone",
    [[128135, 127996, 8205, 9794, 65039], [128135, 127997, 8205, 9794, 65039]]),
   ("man_getting_massage man_getting_massage_dark_skin_tone",
    [[128134, 8205, 9794, 65039], [128134, 127999, 8205, 9794, 65039]]),
   ("man_getting_massage_light_skin_tone man_getting_massage_medium-dark_skin_tone",
    [[128134, 127995, 8205, 9794, 65039], [128134, 127998, 8205, 9794, 65039]]),
   ("man_getting_massage_medium-light_skin_tone man_getting_massage_medium_skin_tone",
    [[128134, 127996, 8205, 9794, 65039], [128134, 127997, 8205, 9794, 65039]]),
   ("man_golfing man_golfing_dark_skin_tone",
    [[127948, 65039, 8205, 9794, 65039], [127948, 127999, 8205, 9794, 65039]]),
   ("man_golfing_light_skin_tone man_golfing_medium-dark_skin_tone",
    [[127948, 127995, 8205, 9794, 65039], [127948, 127998, 8205, 9794, 65039]]),
   ("man_golfing_medium-light_skin_tone man_golfing_medium_skin_tone",
    [[127948, 127996, 8205, 9794, 65039], [127948, 127997, 8205, 9794, 65039]]),
   ("man_guard man_guard_dark_skin_tone",
    [[128130, 8205, 9794, 65039], [128130, 127999, 8205, 9794, 65039]]),
   ("man_guard_light_skin_tone man_guard_medium-dark_skin_tone",
    [[128130, 127995, 8205, 9794, 65039], [128130, 127998, 8205, 9794, 65039]]),
   ("man_guard_medium-light_skin_tone man_guard_medium_skin_tone",
    [[128130, 127996, 8205, 9794, 65039], [128130, 127997, 8205, 9794, 65039]]),
   ("man_health_worker man_health_worker_dark_skin_tone",
    [[128104, 8205, 9877, 65039], [128104, 127999, 8205, 9877, 65039]]),
   ("man_health_worker_light_skin_tone man_health_worker_medium-dark_skin_tone",
    [[128104, 127995, 8205, 9877, 65039], [128104, 127998, 8205, 9877, 65039]]),
   ("man_health_worker_medium-light_skin_tone man_health_worker_medium_skin_tone",
    [[128104, 127996, 8205, 9877, 65039], [128104, 127997, 8205, 9877, 65039]]),
   ("man_in_business_suit_levitating man_in_lotus_position man_in_lotus_position_dark_skin_tone",
    [[128372], [129496, 8205, 9794, 65039], [129496, 127999, 8205, 9794, 65039]]),
   ("man_in_lotus_position_light_skin_tone man_in_lotus_position_medium-dark_skin_tone",
    [[129496, 127995, 8205, 9794, 65039], [129496, 127998, 8205, 9794, 65039]]),
   ("man_in_lotus_position_medium-light_skin_tone man_in_lotus_position_medium_skin_tone",
    [[129496, 127996, 8205, 9794, 65039], [129496, 127997, 8205, 9794, 65039]]),
   ("man_in_manual_wheelchair man_in_motorized_wheelchair man_in_steamy_room",
    [[128104, 8205, 129469], [128104, 8205, 129468], [129494, 8205, 9794, 65039]]),
   ("man_in_steamy_room_dark_skin_tone man_in_steamy_room_light_skin_tone",
    [[129494, 127999, 8205, 9794, 65039], [129494, 127995, 8205, 9794, 65039]]),
   ("man_in_steamy_room_medium-dark_skin_tone man_in_steamy_room_medium-light_skin_tone",
    [[129494, 127998, 8205, 9794, 65039], [129494, 127996, 8205, 9794, 65039]]),
   ("man_in_steamy_room_medium_skin_tone man_in_suit_levitating",
    [[129494, 127997, 8205, 9794, 65039], [128372]]),
   ("man_in_suit_levitating_dark_skin_tone man_in_suit_levitating_light_skin_tone",
    [[128372, 127999], [128372, 127995]]),
   ("man_in_suit_levitating_medium-dark_skin_tone man_in_suit_levitating_medium-light_skin_tone",
    [[128372, 127998], [128372, 127996]]),
   ("man_in_suit_levitating_medium_skin_tone man_in_tuxedo man_in_tuxedo_dark_skin_tone",
    [[128372, 127997], [129333], [129333, 127999]]),
   ("man_in_tuxedo_light_skin_tone man_in_tuxedo_medium-dark_skin_tone",
    [[129333, 127995], [129333, 127998]]),
   ("man_in_tuxedo_medium-light_skin_tone man_in_tuxedo_medium_skin_tone man_judge",
    [[129333, 127996], [129333, 127997], [128104, 8205, 9878, 65039]]),
   ("man_judge_dark_skin_tone man_judge_light_skin_tone",
    [[128104, 127999, 8205, 9878, 65039], [128104, 127995, 8205, 9878, 65039]]),
   ("man_judge_medium-dark_skin_tone man_judge_medium-light_skin_tone",
    [[128104, 127998, 8205, 9878, 65039], [128104, 127996, 8205, 9878, 65039]]),
   ("man_judge_medium_skin_tone man_juggling",
    [[128104, 127997, 8205, 9878, 65039], [129337, 8205, 9794, 65039]]),
   ("man_juggling_dark_skin_tone man_juggling_light_skin_tone",
    [[129337, 127999, 8205, 9794, 65039], [129337, 127995, 8205, 9794, 65039]]),
   ("man_juggling_medium-dark_skin_tone man_juggling_medium-light_skin_tone",
    [[129337, 127998, 8205, 9794, 65039], [129337, 127996, 8205, 9794, 65039]]),
   ("man_juggling_medium_skin_tone man_lifting_weights",
    [[129337, 127997, 8205, 9794, 65039], [127947, 65039, 8205, 9794, 65039]]),
   ("man_lifting_weights_dark_skin_tone man_lifting_weights_light_skin_tone",
    [[127947, 127999, 8205, 9794, 65039], [127947, 127995, 8205, 9794, 65039]]),
   ("man_lifting_weights_medium-dark_skin_tone man_lifting_weights_medium-light_skin_tone",
    [[127947, 127998, 8205, 9794, 65039], [127947, 127996, 8205, 9794, 65039]]),
   ("man_lifting_weights_medium_skin_tone man_light_skin_tone man_mage",
    [[127947, 127997, 8205, 9794, 65039], [128104, 127995], [129497, 8205, 9794, 65039]]),
   ("man_mage_dark_skin_tone man_mage_light_skin_tone",
    [[129497, 127999, 8205, 9794, 65039], [129497, 127995, 8205, 9794, 65039]]),
   ("man_mage_medium-dark_skin_tone man_mage_medium-light_skin_tone",
    [[129497, 127998, 8205, 9794, 65039], [129497, 127996, 8205, 9794, 65039]]),
   ("man_mage_medium_skin_tone man_mechanic man_mechanic_dark_skin_tone",
    [[129497, 127997, 8205, 9794, 65039], [128104, 8205, 128295], [128104, 127999, 8205, 128295]]),
   ("man_mechanic_light_skin_tone man_mechanic_medium-dark_skin_tone",
    [[128104, 127995, 8205, 128295], [128104, 127998, 8205, 128295]]),
   ("man_mechanic_medium-light_skin_tone man_mechanic_medium_skin_tone man_medium-dark_skin_tone",
    [[128104, 127996, 8205, 128295], [128104, 127997, 8205, 128295], [128104, 127998]]),
   ("man_medium-light_skin_tone man_medium_skin_tone man_mountain_biking",
    [[128104, 127996], [128104, 127997], [128693, 8205, 9794, 65039]]),
   ("man_mountain_biking_dark_skin_tone man_mountain_biking_light_skin_tone",
    [[128693, 127999, 8205, 9794, 65039], [128693, 127995, 8205, 9794, 65039]]),
   ("man_mountain_biking_medium-dark_skin_tone man_mountain_biking_medium-light_skin_tone",
    [[128693, 127998, 8205, 9794, 65039], [128693, 127996, 8205, 9794, 65039]]),
   ("man_mountain_biking_medium_skin_tone man_office_worker man_office_worker_dark_skin_tone",
    [[128693, 127997, 8205, 9794, 65039], [128104, 8205, 128188], [128104, 127999, 8205, 128188]]),
   ("man_office_worker_light_skin_tone man_office_worker_medium-dark_skin_tone",
    [[128104, 127995, 8205, 128188], [128104, 127998, 8205, 128188]]),
   ("man_office_worker_medium-light_skin_tone man_office_worker_medium_skin_tone man_pilot",
    [[128104, 127996, 8205, 128188], [128104, 127997, 8205, 128188], [128104, 8205, 9992, 65039]]),
   ("man_pilot_dark_skin_tone man_pilot_light_skin_tone",
    [[128104, 127999, 8205, 9992, 65039], [128104, 127995, 8205, 9992, 65039]]),
   ("man_pilot_medium-dark_skin_tone man_pilot_medium-light_skin_tone",
    [[128104, 127998, 8205, 9992, 65039], [128104, 127996, 8205, 9992, 65039]]),
   ("man_pilot_medium_skin_tone man_playing_handball",
    [[128104, 127997, 8205, 9992, 65039], [129342, 8205, 9794, 65039]]),
   ("man_playing_handball_dark_skin_tone man_playing_handball_light_skin_tone",
    [[129342, 127999, 8205, 9794, 65039], [129342, 127995, 8205, 9794, 65039]]),
   ("man_playing_handball_medium-dark_skin_tone man_playing_handball_medium-light_skin_tone",
    [[129342, 127998, 8205, 9794, 65039], [129342, 127996, 8205, 9794, 65039]]),
   ("man_playing_handball_medium_skin_tone man_playing_water_polo",
    [[129342, 127997, 8205, 9794, 65039], [129341, 8205, 9794, 65039]]),
   ("man_playing_water_polo_dark_skin_tone man_playing_water_polo_light_skin_tone",
    [[129341, 127999, 8205, 9794, 65039], [129341, 127995, 8205, 9794, 65039]]),
   ("man_playing_water_polo_medium-dark_skin_tone man_playing_water_polo_medium-light_skin_tone",
    [[129341, 127998, 8205, 9794, 65039], [129341, 127996, 8205, 9794, 65039]]),
   ("man_playing_water_polo_medium_skin_tone man_police_officer",
    [[129341, 127997, 8205, 9794, 65039], [128110, 8205, 9794, 65039]]),
   ("man_police_officer_dark_skin_tone man_police_officer_light_skin_tone",
    [[128110, 127999, 8205, 9794, 65039], [128110, 127995, 8205, 9794, 65039]]),
   ("man_police_officer_medium-dark_skin_tone man_police_officer_medium-light_skin_tone",
    [[128110, 127998, 8205, 9794, 65039], [128110, 127996, 8205, 9794, 65039]]),
   ("man_police_officer_medium_skin_tone man_pouting",
    [[128110, 127997, 8205, 9794, 65039], [128590, 8205, 9794, 65039]]),
   ("man_pouting_dark_skin_tone man_pouting_light_skin_tone",
    [[128590, 127999, 8205, 9794, 65039], [128590, 127995, 8205, 9794, 65039]]),
   ("man_pouting_medium-dark_skin_tone man_pouting_medium-light_skin_tone",
    [[128590, 127998, 8205, 9794, 65039], [128590, 127996, 8205, 9794, 65039]]),
   ("man_pouting_medium_skin_tone man_raising_hand",
    [[128590, 127997, 8205, 9794, 65039], [128587, 8205, 9794, 65039]]),
   ("man_raising_hand_dark_skin_tone man_raising_hand_light_skin_tone",
    [[128587, 127999, 8205, 9794, 65039], [128587, 127995, 8205, 9794, 65039]]),
   ("man_raising_hand_medium-dark_skin_tone man_raising_hand_medium-light_skin_tone",
    [[128587, 127998, 8205, 9794, 65039], [128587, 127996, 8205, 9794, 65039]]),
   ("man_raising_hand_medium_skin_tone man_rowing_boat",
    [[128587, 127997, 8205, 9794, 65039], [128675, 8205, 9794, 65039]]),
   ("man_rowing_boat_dark_skin_tone man_rowing_boat_light_skin_tone",
    [[128675, 127999, 8205, 9794, 65039], [128675, 127995, 8205, 9794, 65039]]),
   ("man_rowing_boat_medium-dark_skin_tone man_rowing_boat_medium-light_skin_tone",
    [[128675, 127998, 8205, 9794, 65039], [128675, 127996, 8205, 9794, 65039]]),
   ("man_rowing_boat_medium_skin_tone man_running",
    [[128675, 127997, 8205, 9794, 65039], [127939, 8205, 9794, 65039]]),
   ("man_running_dark_skin_tone man_running_light_skin_tone",
    [[127939, 127999, 8205, 9794, 65039], [127939, 127995, 8205, 9794, 65039]]),
   ("man_running_medium-dark_skin_tone man_running_medium-light_skin_tone",
    [[127939, 127998, 8205, 9794, 65039], [127939, 127996, 8205, 9794, 65039]]),
   ("man_running_medium_skin_tone man_scientist man_scientist_dark_skin_tone",
    [[127939, 127997, 8205, 9794, 65039], [128104, 8205, 128300], [128104, 127999, 8205, 128300]]),
   ("man_scientist_light_skin_tone man_scientist_medium-dark_skin_tone",
    [[128104, 127995, 8205, 128300], [128104, 127998, 8205, 128300]]),
   ("man_scientist_medium-light_skin_tone man_scientist_medium_skin_tone man_shrugging",
    [[128104, 127996, 8205, 128300], [128104, 127997, 8205, 128300], [129335, 8205, 9794, 65039]]),
   ("man_shrugging_dark_skin_tone man_shrugging_light_skin_tone",
    [[129335, 127999, 8205, 9794, 65039], [129335, 127995, 8205, 9794, 65039]]),
   ("man_shrugging_medium-dark_skin_tone man_shrugging_medium-light_skin_tone",
    [[129335, 127998, 8205, 9794, 65039], [129335, 127996, 8205, 9794, 65039]]),
   ("man_shrugging_medium_skin_tone man_singer man_singer_dark_skin_tone",
    [[129335, 127997, 8205, 9794, 65039], [128104, 8205, 127908], [128104, 127999, 8205, 127908]]),
   ("man_singer_light_skin_tone man_singer_medium-dark_skin_tone",
    [[128104, 127995, 8205, 127908], [128104, 127998, 8205, 127908]]),
   ("man_singer_medium-light_skin_tone man_singer_medium_skin_tone man_student",
    [[128104, 127996, 8205, 127908], [128104, 127997, 8205, 127908], [128104, 8205, 127891]]),
   ("man_student_dark_skin_tone man_student_light_skin_tone",
    [[128104, 127999, 8205, 127891], [128104, 127995, 8205, 127891]]),
   ("man_student_medium-dark_skin_tone man_student_medium-light_skin_tone",
    [[128104, 127998, 8205, 127891], [128104, 127996, 8205, 127891]]),
   ("man_student_medium_skin_tone man_surfing",
    [[128104, 127997, 8205, 127891], [127940, 8205, 9794, 65039]]),
   ("man_surfing_dark_skin_tone man_surfing_light_skin_tone",
    [[127940, 127999, 8205, 9794, 65039], [127940, 127995, 8205, 9794, 65039]]),
   ("man_surfing_medium-dark_skin_tone man_surfing_medium-light_skin_tone",
    [[127940, 127998, 8205, 9794, 65039], [127940, 127996, 8205, 9794, 65039]]),
   ("man_surfing_medium_skin_tone man_swimming",
    [[127940, 127997, 8205, 9794, 65039], [127946, 8205, 9794, 65039]]),
   ("man_swimming_dark_skin_tone man_swimming_light_skin_tone",
    [[127946, 127999, 8205, 9794, 65039], [127946, 127995, 8205, 9794, 65039]]),
   ("man_swimming_medium-dark_skin_tone man_swimming_medium-light_skin_tone",
    [[127946, 127998, 8205, 9794, 65039], [127946, 127996, 8205, 9794, 65039]]),
   ("man_swimming_medium_skin_tone man_teacher man_teacher_dark_skin_tone",
    [[127946, 127997, 8205, 9794, 65039], [128104, 8205, 127979], [128104, 127999, 8205, 127979]]),
   ("man_teacher_light_skin_tone man_teacher_medium-dark_skin_tone",
    [[128104, 127995, 8205, 127979], [128104, 127998, 8205, 127979]]),
   ("man_teacher_medium-light_skin_tone man_teacher_medium_skin_tone man_technologist",
    [[128104, 127996, 8205, 127979], [128104, 127997, 8205, 127979], [128104, 8205, 128187]]),
   ("man_technologist_dark_skin_tone man_technologist_light_skin_tone",
    [[128104, 127999, 8205, 128187], [128104, 127995, 8205, 128187]]),
   ("man_technologist_medium-dark_skin_tone man_technologist_medium-light_skin_tone",
    [[128104, 127998, 8205, 128187], [128104, 127996, 8205, 128187]]),
   ("man_technologist_medium_skin_tone man_tipping_hand",
    [[128104, 127997, 8205, 128187], [128129, 8205, 9794, 65039]]),
   ("man_tipping_hand_dark_skin_tone man_tipping_hand_light_skin_tone",
    [[128129, 127999, 8205, 9794, 65039], [128129, 127995, 8205, 9794, 65039]]),
   ("man_tipping_hand_medium-dark_skin_tone man_tipping_hand_medium-light_skin_tone",
    [[128129, 127998, 8205, 9794, 65039], [128129, 127996, 8205, 9794, 65039]]),
   ("man_tipping_hand_medium_skin_tone man_vampire",
    [[128129, 127997, 8205, 9794, 65039], [129499, 8205, 9794, 65039]]),
   ("man_vampire_dark_skin_tone man_vampire_light_skin_tone",
    [[129499, 127999, 8205, 9794, 65039], [129499, 127995, 8205, 9794, 65039]]),
   ("man_vampire_medium-dark_skin_tone man_vampire_medium-light_skin_tone",
    [[129499, 127998, 8205, 9794, 65039], [129499, 127996, 8205, 9794, 65039]]),
   ("man_vampire_medium_skin_tone man_walking",
    [[129499, 127997, 8205, 9794, 65039], [128694, 8205, 9794, 65039]]),
   ("man_walking_dark_skin_tone man_walking_light_skin_tone",
    [[128694, 127999, 8205, 9794, 65039], [128694, 127995, 8205, 9794, 65039]]),
   ("man_walking_medium-dark_skin_tone man_walking_medium-light_skin_tone",
    [[128694, 127998, 8205, 9794, 65039], [128694, 127996, 8205, 9794, 65039]]),
   ("man_walking_medium_skin_tone man_wearing_turban",
    [[128694, 127997, 8205, 9794, 65039], [128115, 8205, 9794, 65039]]),
   ("man_wearing_turban_dark_skin_tone man_wearing_turban_light_skin_tone",
    [[128115, 127999, 8205, 9794, 65039], [128115, 127995, 8205, 9794, 65039]]),
   ("man_wearing_turban_medium-dark_skin_tone man_wearing_turban_medium-light_skin_tone",
    [[128115, 127998, 8205, 9794, 65039], [128115, 127996, 8205, 9794, 65039]]),
   ("man_wearing_turban_medium_skin_tone man_with_chinese_cap man_with_chinese_cap_dark_skin_tone",
    [[128115, 127997, 8205, 9794, 65039], [128114], [128114, 127999]]),
   ("man_with_chinese_cap_light_skin_tone man_with_chinese_cap_medium-dark_skin_tone",
    [[128114, 127995], [128114, 127998]]),
   ("man_with_chinese_cap_medium-light_skin_tone man_with_chinese_cap_medium_skin_tone",
    [[128114, 127996], [128114, 127997]]),
   ("man_with_gua_pi_mao man_with_probing_cane man_with_turban man_zombie mango mans_shoe",
    [[128114], [128104, 8205, 129455], [128115], [129503, 8205, 9794, 65039], [129389], [128094]]),
   ("mantelpiece_clock manual_wheelchair man’s_shoe map_of_japan maple_leaf marshall_islands",
    [[128368], [129469], [128094], [128510], [127809], [127474, 127469]]),
   ("martial_arts_uniform martinique mask massage mate mauritania mauritius",
    [[129355], [127474, 127478], [128567], [128134], [129481], [127474, 127479], [127474, 127482]]),
   ("mayotte meat_on_bone mechanical_arm mechanical_leg medical_symbol medium_dark_skin_tone",
    [[127486, 127481], [127830], [129470], [129471], [9877], [127998]]),
   ("medium_light_skin_tone medium_skin_tone mega megaphone melon memo men_with_bunny_ears",
    [[127996], [127997], [128227], [128227], [127816], [128221], [128111, 8205, 9794, 65039]]),
   ("men_wrestling menorah menorah_with_nine_branches mens men’s_room",
    [[129340, 8205, 9794, 65039], [128334], [128334], [128697], [128697]]),
   ("mermaid mermaid_dark_skin_tone",
    [[129500, 8205, 9792, 65039], [129500, 127999, 8205, 9792, 65039]]),
   ("mermaid_light_skin_tone mermaid_medium-dark_skin_tone",
    [[129500, 127995, 8205, 9792, 65039], [129500, 127998, 8205, 9792, 65039]]),
   ("mermaid_medium-light_skin_tone mermaid_medium_skin_tone",
    [[129500, 127996, 8205, 9792, 65039], [129500, 127997, 8205, 9792, 65039]]),
   ("merman merman_dark_skin_tone",
    [[129500, 8205, 9794, 65039], [129500, 127999, 8205, 9794, 65039]]),
   ("merman_light_skin_tone merman_medium-dark_skin_tone",
    [[129500, 127995, 8205, 9794, 65039], [129500, 127998, 8205, 9794, 65039]]),
   ("merman_medium-light_skin_tone merman_medium_skin_tone merperson",
    [[129500, 127996, 8205, 9794, 65039], [129500, 127997, 8205, 9794, 65039], [129500]]),
   ("merperson_dark_skin_tone merperson_light_skin_tone merperson_medium-dark_skin_tone",
    [[129500, 127999], [129500, 127995], [129500, 127998]]),
   ("merperson_medium-light_skin_tone merperson_medium_skin_tone metro mexico microbe micronesia",
    [[129500, 127996], [129500, 127997], [128647], [127474, 127485], [129440], [127467, 127474]]),
   ("microphone microscope middle_finger middle_finger_dark_skin_tone",
    [[127908], [128300], [128405], [128405, 127999]]),
   ("middle_finger_light_skin_tone middle_finger_medium-dark_skin_tone",
    [[128405, 127995], [128405, 127998]]),
   ("middle_finger_medium-light_skin_tone middle_finger_medium_skin_tone military_medal milky_way",
    [[128405, 127996], [128405, 127997], [127894], [127756]]),
   ("minibus minidisc moai mobile_phone mobile_phone_off mobile_phone_with_arrow moldova",
    [[128656], [128189], [128511], [128241], [128244], [128242], [127474, 127465]]),
   ("monaco money-mouth_face money__mouth_face money_bag money_with_wings moneybag mongolia",
    [[127474, 127464], [129297], [129297], [128176], [128184], [128176], [127474, 127475]]),
   ("monkey monkey_face monorail montenegro montserrat moon moon_cake",
    [[128018], [128053], [128669], [127474, 127466], [127474, 127480], [127764], [129390]]),
   ("moon_viewing_ceremony morocco mortar_board mosque mosquito motor_boat motor_scooter",
    [[127889], [127474, 127462], [127891], [128332], [129439], [128741], [128757]]),
   ("motorcycle motorized_wheelchair motorway mount_fuji mountain mountain_bicyclist",
    [[127949], [129468], [128739], [128507], [9968], [128693]]),
   ("mountain_cableway mountain_railway mouse mouse2 mouse_face mouth movie_camera moyai",
    [[128672], [128670], [128045], [128001], [128045], [128068], [127909], [128511]]),
   ("mozambique mrs._claus mrs._claus_dark_skin_tone mrs._claus_light_skin_tone",
    [[127474, 127487], [129334], [129334, 127999], [129334, 127995]]),
   ("mrs._claus_medium-dark_skin_tone mrs._claus_medium-light_skin_tone",
    [[129334, 127998], [129334, 127996]]),
   ("mrs._claus_medium_skin_tone muscle mushroom musical_keyboard musical_note musical_notes",
    [[129334, 127997], [128170], [127812], [127929], [127925], [127926]]),
   ("musical_score mute muted_speaker myanmar_(burma) nail_care nail_polish",
    [[127932], [128263], [128263], [127474, 127474], [128133], [128133]]),
   ("nail_polish_dark_skin_tone nail_polish_light_skin_tone nail_polish_medium-dark_skin_tone",
    [[128133, 127999], [128133, 127995], [128133, 127998]]),
   ("nail_polish_medium-light_skin_tone nail_polish_medium_skin_tone name_badge namibia",
    [[128133, 127996], [128133, 127997], [128219], [127475, 127462]]),
   ("national_park nauru nauseated_face nazar_amulet necktie negative_squared_cross_mark nepal",
    [[127966], [127475, 127479], [129314], [129535], [128084], [10062], [127475, 127477]]),
   ("nerd_face netherlands neutral_face new new_button new_caledonia new_moon",
    [[129299], [127475, 127473], [128528], [127381], [127381], [127475, 127464], [127761]]),
   ("new_moon_face new_moon_with_face new_zealand newspaper next_track_button ng ng_button",
    [[127770], [127770], [127475, 127487], [128240], [9197], [127382], [127382]]),
   ("nicaragua niger nigeria night_with_stars nine nine-thirty",
    [[127475, 127470], [127475, 127466], [127475, 127468], [127747], [57, 65039, 8419], [128356]]),
   ("nine_o’clock niue no_bell no_bicycles no_entry no_entry_sign no_good no_littering",
    [[128344], [127475, 127482], [128277], [128691], [9940], [128683], [128581], [128687]]),
   ("no_mobile_phones no_mouth no_one_under_eighteen no_pedestrians no_smoking non-potable_water",
    [[128245], [128566], [128286], [128695], [128685], [128689]]),
   ("non__potable_water norfolk_island north_korea northern_mariana_islands norway nose",
    [[128689], [127475, 127467], [127472, 127477], [127474, 127477], [127475, 127476], [128067]]),
   ("nose_dark_skin_tone nose_light_skin_tone nose_medium-dark_skin_tone",
    [[128067, 127999], [128067, 127995], [128067, 127998]]),
   ("nose_medium-light_skin_tone nose_medium_skin_tone notebook notebook_with_decorative_cover",
    [[128067, 127996], [128067, 127997], [128211], [128212]]),
   ("notes nut_and_bolt o o2 o_button_(blood_type) ocean octopus oden office",
    [[127926], [128297], [11093], [127358], [127358], [127754], [128025], [127842], [127970]]),
   ("office_building ogre oil_drum ok ok_button ok_hand ok_hand_dark_skin_tone",
    [[127970], [128121], [128738], [127383], [127383], [128076], [128076, 127999]]),
   ("ok_hand_light_skin_tone ok_hand_medium-dark_skin_tone ok_hand_medium-light_skin_tone",
    [[128076, 127995], [128076, 127998], [128076, 127996]]),
   ("ok_hand_medium_skin_tone ok_woman old_key old_man old_man_dark_skin_tone",
    [[128076, 127997], [128582], [128477], [128116], [128116, 127999]]),
   ("old_man_light_skin_tone old_man_medium-dark_skin_tone old_man_medium-light_skin_tone",
    [[128116, 127995], [128116, 127998], [128116, 127996]]),
   ("old_man_medium_skin_tone old_woman old_woman_dark_skin_tone old_woman_light_skin_tone",
    [[128116, 127997], [128117], [128117, 127999], [128117, 127995]]),
   ("old_woman_medium-dark_skin_tone old_woman_medium-light_skin_tone old_woman_medium_skin_tone",
    [[128117, 127998], [128117, 127996], [128117, 127997]]),
   ("older_adult older_adult_dark_skin_tone older_adult_light_skin_tone",
    [[129491], [129491, 127999], [129491, 127995]]),
   ("older_adult_medium-dark_skin_tone older_adult_medium-light_skin_tone",
    [[129491, 127998], [129491, 127996]]),
   ("older_adult_medium_skin_tone older_man older_woman om om_symbol oman on",
    [[129491, 127997], [128116], [128117], [128329], [128329], [127476, 127474], [128283]]),
   ("on!_arrow oncoming_automobile oncoming_bus oncoming_fist oncoming_fist_dark_skin_tone",
    [[128283], [128664], [128653], [128074], [128074, 127999]]),
   ("oncoming_fist_light_skin_tone oncoming_fist_medium-dark_skin_tone",
    [[128074, 127995], [128074, 127998]]),
   ("oncoming_fist_medium-light_skin_tone oncoming_fist_medium_skin_tone oncoming_police_car",
    [[128074, 127996], [128074, 127997], [128660]]),
   ("oncoming_taxi one one-piece_swimsuit one-thirty one_o’clock onion open_book open_file_folder",
    [[128662], [49, 65039, 8419], [129649], [128348], [128336], [129477], [128214], [128194]]),
   ("open_hands open_hands_dark_skin_tone open_hands_light_skin_tone",
    [[128080], [128080, 127999], [128080, 127995]]),
   ("open_hands_medium-dark_skin_tone open_hands_medium-light_skin_tone",
    [[128080, 127998], [128080, 127996]]),
   ("open_hands_medium_skin_tone open_mailbox_with_lowered_flag open_mailbox_with_raised_flag",
    [[128080, 127997], [128237], [128236]]),
   ("open_mouth ophiuchus optical_disk orange_book orange_circle orange_heart orange_square",
    [[128558], [9934], [128191], [128217], [128992], [129505], [128999]]),
   ("orangutan orthodox_cross otter outbox_tray owl ox oyster p_button package",
    [[129447], [9766], [129446], [128228], [129417], [128002], [129450], [127359], [128230]]),
   ("page_facing_up page_with_curl pager paintbrush pakistan palau palestinian_territories",
    [[128196], [128195], [128223], [128396], [127477, 127472], [127477, 127484], [127477, 127480]]),
   ("palm_tree palms_up_together palms_up_together_dark_skin_tone",
    [[127796], [129330], [129330, 127999]]),
   ("palms_up_together_light_skin_tone palms_up_together_medium-dark_skin_tone",
    [[129330, 127995], [129330, 127998]]),
   ("palms_up_together_medium-light_skin_tone palms_up_together_medium_skin_tone panama pancakes",
    [[129330, 127996], [129330, 127997], [127477, 127462], [129374]]),
   ("panda_face paperclip papua_new_guinea paraguay parking parrot part_alternation_mark",
    [[128060], [128206], [127477, 127468], [127477, 127486], [127359], [129436], [12349]]),
   ("partly_sunny party_popper partying_face passenger_ship passport_control pause_button",
    [[9925], [127881], [129395], [128755], [128706], [9208]]),
   ("paw_prints peace_symbol peach peacock peanuts pear pen pencil pencil2",
    [[128062], [9774], [127825], [129434], [129372], [127824], [128394], [128221], [9999]]),
   ("penguin pensive pensive_face people_holding_hands people_with_bunny_ears people_wrestling",
    [[128039], [128532], [128532], [129489, 8205, 129309, 8205, 129489], [128111], [129340]]),
   ("performing_arts persevere persevering_face",
    [[127917], [128547], [128547]])]

end CallSites.Text.Emoji
