/-! # The last names of pictures

The names from `person_biking` on in the order of their characters.
-/

namespace CallSites.Text.Emoji

/-- Names of pictures, some in a row, and for each of them the code points it stands for. -/
def last : List (String × List (List Nat)) :=
  [("person_biking person_biking_dark_skin_tone person_biking_light_skin_tone",
    [[128692], [128692, 127999], [128692, 127995]]),
   ("person_biking_medium-dark_skin_tone person_biking_medium-light_skin_tone",
    [[128692, 127998], [128692, 127996]]),
   ("person_biking_medium_skin_tone person_bouncing_ball person_bouncing_ball_dark_skin_tone",
    [[128692, 127997], [9977], [9977, 127999]]),
   ("person_bouncing_ball_light_skin_tone person_bouncing_ball_medium-dark_skin_tone",
    [[9977, 127995], [9977, 127998]]),
   ("person_bouncing_ball_medium-light_skin_tone person_bouncing_ball_medium_skin_tone",
    [[9977, 127996], [9977, 127997]]),
   ("person_bowing person_bowing_dark_skin_tone person_bowing_light_skin_tone",
    [[128583], [128583, 127999], [128583, 127995]]),
   ("person_bowing_medium-dark_skin_tone person_bowing_medium-light_skin_tone",
    [[128583, 127998], [128583, 127996]]),
   ("person_bowing_medium_skin_tone person_cartwheeling person_cartwheeling_dark_skin_tone",
    [[128583, 127997], [129336], [129336, 127999]]),
   ("person_cartwheeling_light_skin_tone person_cartwheeling_medium-dark_skin_tone",
    [[129336, 127995], [129336, 127998]]),
   ("person_cartwheeling_medium-light_skin_tone person_cartwheeling_medium_skin_tone",
    [[129336, 127996], [129336, 127997]]),
   ("person_climbing person_climbing_dark_skin_tone person_climbing_light_skin_tone",
    [[129495], [129495, 127999], [129495, 127995]]),
   ("person_climbing_medium-dark_skin_tone person_climbing_medium-light_skin_tone",
    [[129495, 127998], [129495, 127996]]),
   ("person_climbing_medium_skin_tone person_facepalming person_facepalming_dark_skin_tone",
    [[129495, 127997], [129318], [129318, 127999]]),
   ("person_facepalming_light_skin_tone person_facepalming_medium-dark_skin_tone",
    [[129318, 127995], [129318, 127998]]),
   ("person_facepalming_medium-light_skin_tone person_facepalming_medium_skin_tone person_fencing",
    [[129318, 127996], [129318, 127997], [129338]]),
   ("person_frowning person_frowning_dark_skin_tone person_frowning_light_skin_tone",
    [[128589], [128589, 127999], [128589, 127995]]),
   ("person_frowning_medium-dark_skin_tone person_frowning_medium-light_skin_tone",
    [[128589, 127998], [128589, 127996]]),
   ("person_frowning_medium_skin_tone person_gesturing_no person_gesturing_no_dark_skin_tone",
    [[128589, 127997], [128581], [128581, 127999]]),
   ("person_gesturing_no_light_skin_tone person_gesturing_no_medium-dark_skin_tone",
    [[128581, 127995], [128581, 127998]]),
   ("person_gesturing_no_medium-light_skin_tone person_gesturing_no_medium_skin_tone",
    [[128581, 127996], [128581, 127997]]),
   ("person_gesturing_ok person_gesturing_ok_dark_skin_tone person_gesturing_ok_light_skin_tone",
    [[128582], [128582, 127999], [128582, 127995]]),
   ("person_gesturing_ok_medium-dark_skin_tone person_gesturing_ok_medium-light_skin_tone",
    [[128582, 127998], [128582, 127996]]),
   ("person_gesturing_ok_medium_skin_tone person_getting_haircut",
    [[128582, 127997], [128135]]),
   ("person_getting_haircut_dark_skin_tone person_getting_haircut_light_skin_tone",
    [[128135, 127999], [128135, 127995]]),
   ("person_getting_haircut_medium-dark_skin_tone person_getting_haircut_medium-light_skin_tone",
    [[128135, 127998], [128135, 127996]]),
   ("person_getting_haircut_medium_skin_tone person_getting_massage",
    [[128135, 127997], [128134]]),
   ("person_getting_massage_dark_skin_tone person_getting_massage_light_skin_tone",
    [[128134, 127999], [128134, 127995]]),
   ("person_getting_massage_medium-dark_skin_tone person_getting_massage_medium-light_skin_tone",
    [[128134, 127998], [128134, 127996]]),
   ("person_getting_massage_medium_skin_tone person_golfing person_golfing_dark_skin_tone",
    [[128134, 127997], [127948], [127948, 127999]]),
   ("person_golfing_light_skin_tone person_golfing_medium-dark_skin_tone",
    [[127948, 127995], [127948, 127998]]),
   ("person_golfing_medium-light_skin_tone person_golfing_medium_skin_tone person_in_bed",
    [[127948, 127996], [127948, 127997], [128716]]),
   ("person_in_bed_dark_skin_tone person_in_bed_light_skin_tone",
    [[128716, 127999], [128716, 127995]]),
   ("person_in_bed_medium-dark_skin_tone person_in_bed_medium-light_skin_tone",
    [[128716, 127998], [128716, 127996]]),
   ("person_in_bed_medium_skin_tone person_in_lotus_position",
    [[128716, 127997], [129496]]),
   ("person_in_lotus_position_dark_skin_tone person_in_lotus_position_light_skin_tone",
    [[129496, 127999], [129496, 127995]]),
   ("person_in_lotus_position_medium-dark_skin_tone",
    [[129496, 127998]]),
   ("person_in_lotus_position_medium-light_skin_tone person_in_lotus_position_medium_skin_tone",
    [[129496, 127996], [129496, 127997]]),
   ("person_in_steamy_room person_in_steamy_room_dark_skin_tone",
    [[129494], [129494, 127999]]),
   ("person_in_steamy_room_light_skin_tone person_in_steamy_room_medium-dark_skin_tone",
    [[129494, 127995], [129494, 127998]]),
   ("person_in_steamy_room_medium-light_skin_tone person_in_steamy_room_medium_skin_tone",
    [[129494, 127996], [129494, 127997]]),
   ("person_juggling person_juggling_dark_skin_tone person_juggling_light_skin_tone",
    [[129337], [129337, 127999], [129337, 127995]]),
   ("person_juggling_medium-dark_skin_tone person_juggling_medium-light_skin_tone",
    [[129337, 127998], [129337, 127996]]),
   ("person_juggling_medium_skin_tone person_kneeling person_lifting_weights",
    [[129337, 127997], [129486], [127947]]),
   ("person_lifting_weights_dark_skin_tone person_lifting_weights_light_skin_tone",
    [[127947, 127999], [127947, 127995]]),
   ("person_lifting_weights_medium-dark_skin_tone person_lifting_weights_medium-light_skin_tone",
    [[127947, 127998], [127947, 127996]]),
   ("person_lifting_weights_medium_skin_tone person_mountain_biking",
    [[127947, 127997], [128693]]),
   ("person_mountain_biking_dark_skin_tone person_mountain_biking_light_skin_tone",
    [[128693, 127999], [128693, 127995]]),
   ("person_mountain_biking_medium-dark_skin_tone person_mountain_biking_medium-light_skin_tone",
    [[128693, 127998], [128693, 127996]]),
   ("person_mountain_biking_medium_skin_tone person_playing_handball",
    [[128693, 127997], [129342]]),
   ("person_playing_handball_dark_skin_tone person_playing_handball_light_skin_tone",
    [[129342, 127999], [129342, 127995]]),
   ("person_playing_handball_medium-dark_skin_tone person_playing_handball_medium-light_skin_tone",
    [[129342, 127998], [129342, 127996]]),
   ("person_playing_handball_medium_skin_tone person_playing_water_polo",
    [[129342, 127997], [129341]]),
   ("person_playing_water_polo_dark_skin_tone person_playing_water_polo_light_skin_tone",
    [[129341, 127999], [129341, 127995]]),
   ("person_playing_water_polo_medium-dark_skin_tone",
    [[129341, 127998]]),
   ("person_playing_water_polo_medium-light_skin_tone person_playing_water_polo_medium_skin_tone",
    [[129341, 127996], [129341, 127997]]),
   ("person_pouting person_pouting_dark_skin_tone person_pouting_light_skin_tone",
    [[128590], [128590, 127999], [128590, 127995]]),
   ("person_pouting_medium-dark_skin_tone person_pouting_medium-light_skin_tone",
    [[128590, 127998], [128590, 127996]]),
   ("person_pouting_medium_skin_tone person_raising_hand person_raising_hand_dark_skin_tone",
    [[128590, 127997], [128587], [128587, 127999]]),
   ("person_raising_hand_light_skin_tone person_raising_hand_medium-dark_skin_tone",
    [[128587, 127995], [128587, 127998]]),
   ("person_raising_hand_medium-light_skin_tone person_raising_hand_medium_skin_tone",
    [[128587, 127996], [128587, 127997]]),
   ("person_rowing_boat person_rowing_boat_dark_skin_tone person_rowing_boat_light_skin_tone",
    [[128675], [128675, 127999], [128675, 127995]]),
   ("person_rowing_boat_medium-dark_skin_tone person_rowing_boat_medium-light_skin_tone",
    [[128675, 127998], [128675, 127996]]),
   ("person_rowing_boat_medium_skin_tone person_running person_running_dark_skin_tone",
    [[128675, 127997], [127939], [127939, 127999]]),
   ("person_running_light_skin_tone person_running_medium-dark_skin_tone",
    [[127939, 127995], [127939, 127998]]),
   ("person_running_medium-light_skin_tone person_running_medium_skin_tone person_shrugging",
    [[127939, 127996], [127939, 127997], [129335]]),
   ("person_shrugging_dark_skin_tone person_shrugging_light_skin_tone",
    [[129335, 127999], [129335, 127995]]),
   ("person_shrugging_medium-dark_skin_tone person_shrugging_medium-light_skin_tone",
    [[129335, 127998], [129335, 127996]]),
   ("person_shrugging_medium_skin_tone person_standing person_surfing",
    [[129335, 127997], [129485], [127940]]),
   ("person_surfing_dark_skin_tone person_surfing_light_skin_tone",
    [[127940, 127999], [127940, 127995]]),
   ("person_surfing_medium-dark_skin_tone person_surfing_medium-light_skin_tone",
    [[127940, 127998], [127940, 127996]]),
   ("person_surfing_medium_skin_tone person_swimming person_swimming_dark_skin_tone",
    [[127940, 127997], [127946], [127946, 127999]]),
   ("person_swimming_light_skin_tone person_swimming_medium-dark_skin_tone",
    [[127946, 127995], [127946, 127998]]),
   ("person_swimming_medium-light_skin_tone person_swimming_medium_skin_tone person_taking_bath",
    [[127946, 127996], [127946, 127997], [128704]]),
   ("person_taking_bath_dark_skin_tone person_taking_bath_light_skin_tone",
    [[128704, 127999], [128704, 127995]]),
   ("person_taking_bath_medium-dark_skin_tone person_taking_bath_medium-light_skin_tone",
    [[128704, 127998], [128704, 127996]]),
   ("person_taking_bath_medium_skin_tone person_tipping_hand person_tipping_hand_dark_skin_tone",
    [[128704, 127997], [128129], [128129, 127999]]),
   ("person_tipping_hand_light_skin_tone person_tipping_hand_medium-dark_skin_tone",
    [[128129, 127995], [128129, 127998]]),
   ("person_tipping_hand_medium-light_skin_tone person_tipping_hand_medium_skin_tone",
    [[128129, 127996], [128129, 127997]]),
   ("person_walking person_walking_dark_skin_tone person_walking_light_skin_tone",
    [[128694], [128694, 127999], [128694, 127995]]),
   ("person_walking_medium-dark_skin_tone person_walking_medium-light_skin_tone",
    [[128694, 127998], [128694, 127996]]),
   ("person_walking_medium_skin_tone person_wearing_turban person_wearing_turban_dark_skin_tone",
    [[128694, 127997], [128115], [128115, 127999]]),
   ("person_wearing_turban_light_skin_tone person_wearing_turban_medium-dark_skin_tone",
    [[128115, 127995], [128115, 127998]]),
   ("person_wearing_turban_medium-light_skin_tone person_wearing_turban_medium_skin_tone",
    [[128115, 127996], [128115, 127997]]),
   ("person_with_ball person_with_blond_hair person_with_pouting_face peru petri_dish philippines",
    [[9977], [128113], [128590], [127477, 127466], [129515], [127477, 127469]]),
   ("phone pick pie pig pig2 pig_face pig_nose pile_of_poo pill",
    [[9742], [9935], [129383], [128055], [128022], [128055], [128061], [128169], [128138]]),
   ("pinching_hand pine_decoration pineapple ping_pong pirate_flag pisces pistol",
    [[129295], [127885], [127821], [127955], [127988, 8205, 9760, 65039], [9811], [128299]]),
   ("pitcairn_islands pizza place_of_worship play_button play_or_pause_button pleading_face",
    [[127477, 127475], [127829], [128720], [9654], [9199], [129402]]),
   ("point_down point_left point_right point_up point_up_2 poland police_car police_car_light",
    [[128071], [128072], [128073], [9757], [128070], [127477, 127473], [128659], [128680]]),
   ("police_officer police_officer_dark_skin_tone police_officer_light_skin_tone",
    [[128110], [128110, 127999], [128110, 127995]]),
   ("police_officer_medium-dark_skin_tone police_officer_medium-light_skin_tone",
    [[128110, 127998], [128110, 127996]]),
   ("police_officer_medium_skin_tone poodle pool_8_ball poop popcorn portugal post_office",
    [[128110, 127997], [128041], [127921], [128169], [127871], [127477, 127481], [127971]]),
   ("postal_horn postbox pot_of_food potable_water potato pouch poultry_leg pound pound_banknote",
    [[128239], [128238], [127858], [128688], [129364], [128093], [127831], [128183], [128183]]),
   ("pouting_cat pouting_cat_face pouting_face pray prayer_beads pregnant_woman",
    [[128574], [128574], [128545], [128591], [128255], [129328]]),
   ("pregnant_woman_dark_skin_tone pregnant_woman_light_skin_tone",
    [[129328, 127999], [129328, 127995]]),
   ("pregnant_woman_medium-dark_skin_tone pregnant_woman_medium-light_skin_tone",
    [[129328, 127998], [129328, 127996]]),
   ("pregnant_woman_medium_skin_tone pretzel prince prince_dark_skin_tone prince_light_skin_tone",
    [[129328, 127997], [129384], [129332], [129332, 127999], [129332, 127995]]),
   ("prince_medium-dark_skin_tone prince_medium-light_skin_tone prince_medium_skin_tone princess",
    [[129332, 127998], [129332, 127996], [129332, 127997], [128120]]),
   ("princess_dark_skin_tone princess_light_skin_tone princess_medium-dark_skin_tone",
    [[128120, 127999], [128120, 127995], [128120, 127998]]),
   ("princess_medium-light_skin_tone princess_medium_skin_tone printer probing_cane prohibited",
    [[128120, 127996], [128120, 127997], [128424], [129455], [128683]]),
   ("puerto_rico punch purple_circle purple_heart purple_square purse pushpin",
    [[127477, 127479], [128074], [128995], [128156], [129002], [128091], [128204]]),
   ("put_litter_in_its_place qatar question question_mark rabbit rabbit2 rabbit_face raccoon",
    [[128686], [127478, 127462], [10067], [10067], [128048], [128007], [128048], [129437]]),
   ("racehorse racing_car racing_motorcycle radio radio_button radioactive radioactive_sign rage",
    [[128014], [127950], [127949], [128251], [128280], [9762], [9762], [128545]]),
   ("railway_car railway_track rainbow rainbow_flag raised_back_of_hand",
    [[128643], [128740], [127752], [127987, 65039, 8205, 127752], [129306]]),
   ("raised_back_of_hand_dark_skin_tone raised_back_of_hand_light_skin_tone",
    [[129306, 127999], [129306, 127995]]),
   ("raised_back_of_hand_medium-dark_skin_tone raised_back_of_hand_medium-light_skin_tone",
    [[129306, 127998], [129306, 127996]]),
   ("raised_back_of_hand_medium_skin_tone raised_fist raised_fist_dark_skin_tone",
    [[129306, 127997], [9994], [9994, 127999]]),
   ("raised_fist_light_skin_tone raised_fist_medium-dark_skin_tone",
    [[9994, 127995], [9994, 127998]]),
   ("raised_fist_medium-light_skin_tone raised_fist_medium_skin_tone raised_hand",
    [[9994, 127996], [9994, 127997], [9995]]),
   ("raised_hand_dark_skin_tone raised_hand_light_skin_tone raised_hand_medium-dark_skin_tone",
    [[9995, 127999], [9995, 127995], [9995, 127998]]),
   ("raised_hand_medium-light_skin_tone raised_hand_medium_skin_tone",
    [[9995, 127996], [9995, 127997]]),
   ("raised_hand_with_fingers_splayed raised_hand_with_part_between_middle_and_ring_fingers",
    [[128400], [128406]]),
   ("raised_hands raising_hand raising_hands raising_hands_dark_skin_tone",
    [[128588], [128587], [128588], [128588, 127999]]),
   ("raising_hands_light_skin_tone raising_hands_medium-dark_skin_tone",
    [[128588, 127995], [128588, 127998]]),
   ("raising_hands_medium-light_skin_tone raising_hands_medium_skin_tone ram ramen rat razor",
    [[128588, 127996], [128588, 127997], [128015], [127836], [128000], [129682]]),
   ("receipt record_button recycle recycling_symbol red-haired_man red-haired_woman red_apple",
    [[129534], [9210], [9851], [9851], [128104, 8205, 129456], [128105, 8205, 129456], [127822]]),
   ("red_car red_circle red_envelope red_hair red_heart red_paper_lantern red_square",
    [[128663], [128308], [129511], [129456], [10084], [127982], [128997]]),
   ("red_triangle_pointed_down red_triangle_pointed_up regional_indicator_a regional_indicator_b",
    [[128315], [128314], [127462], [127463]]),
   ("regional_indicator_c regional_indicator_d regional_indicator_e regional_indicator_f",
    [[127464], [127465], [127466], [127467]]),
   ("regional_indicator_g regional_indicator_h regional_indicator_i regional_indicator_j",
    [[127468], [127469], [127470], [127471]]),
   ("regional_indicator_k regional_indicator_l regional_indicator_m regional_indicator_n",
    [[127472], [127473], [127474], [127475]]),
   ("regional_indicator_o regional_indicator_p regional_indicator_q regional_indicator_r",
    [[127476], [127477], [127478], [127479]]),
   ("regional_indicator_s regional_indicator_symbol_letter_a regional_indicator_symbol_letter_b",
    [[127480], [127462], [127463]]),
   ("regional_indicator_symbol_letter_c regional_indicator_symbol_letter_d",
    [[127464], [127465]]),
   ("regional_indicator_symbol_letter_e regional_indicator_symbol_letter_f",
    [[127466], [127467]]),
   ("regional_indicator_symbol_letter_g regional_indicator_symbol_letter_h",
    [[127468], [127469]]),
   ("regional_indicator_symbol_letter_i regional_indicator_symbol_letter_j",
    [[127470], [127471]]),
   ("regional_indicator_symbol_letter_k regional_indicator_symbol_letter_l",
    [[127472], [127473]]),
   ("regional_indicator_symbol_letter_m regional_indicator_symbol_letter_n",
    [[127474], [127475]]),
   ("regional_indicator_symbol_letter_o regional_indicator_symbol_letter_p",
    [[127476], [127477]]),
   ("regional_indicator_symbol_letter_q regional_indicator_symbol_letter_r",
    [[127478], [127479]]),
   ("regional_indicator_symbol_letter_s regional_indicator_symbol_letter_t",
    [[127480], [127481]]),
   ("regional_indicator_symbol_letter_u regional_indicator_symbol_letter_v",
    [[127482], [127483]]),
   ("regional_indicator_symbol_letter_w regional_indicator_symbol_letter_x",
    [[127484], [127485]]),
   ("regional_indicator_symbol_letter_y regional_indicator_symbol_letter_z regional_indicator_t",
    [[127486], [127487], [127481]]),
   ("regional_indicator_u regional_indicator_v regional_indicator_w regional_indicator_x",
    [[127482], [127483], [127484], [127485]]),
   ("regional_indicator_y regional_indicator_z registered relaxed relieved relieved_face",
    [[127486], [127487], [174], [9786], [128524], [128524]]),
   ("reminder_ribbon repeat repeat_button repeat_one repeat_single_button rescue_worker’s_helmet",
    [[127895], [128257], [128257], [128258], [128258], [9937]]),
   ("restroom reverse_button reversed_hand_with_middle_finger_extended revolving_hearts rewind",
    [[128699], [9664], [128405], [128158], [9194]]),
   ("rhinoceros ribbon rice rice_ball rice_cracker rice_scene right-facing_fist",
    [[129423], [127872], [127834], [127833], [127832], [127889], [129308]]),
   ("right-facing_fist_dark_skin_tone right-facing_fist_light_skin_tone",
    [[129308, 127999], [129308, 127995]]),
   ("right-facing_fist_medium-dark_skin_tone right-facing_fist_medium-light_skin_tone",
    [[129308, 127998], [129308, 127996]]),
   ("right-facing_fist_medium_skin_tone right_anger_bubble right_arrow right_arrow_curving_down",
    [[129308, 127997], [128495], [10145], [10549]]),
   ("right_arrow_curving_left right_arrow_curving_up ring ringed_planet roasted_sweet_potato robot",
    [[8617], [10548], [128141], [129680], [127840], [129302]]),
   ("robot_face rocket roll_of_paper rolled-up_newspaper rolled__up_newspaper roller_coaster",
    [[129302], [128640], [129531], [128478], [128478], [127906]]),
   ("rolling_on_the_floor_laughing romania rooster rose rosette rotating_light round_pushpin",
    [[129315], [127479, 127476], [128019], [127801], [127989], [128680], [128205]]),
   ("rowboat rugby_football runner running running_shirt running_shirt_with_sash running_shoe",
    [[128675], [127945], [127939], [127939], [127933], [127933], [128095]]),
   ("russia rwanda réunion sa sad_but_relieved_face safety_pin safety_vest",
    [[127479, 127482], [127479, 127484], [127479, 127466], [127490], [128549], [129527], [129466]]),
   ("sagittarius sailboat sake salt samoa san_marino sandal sandwich",
    [[9808], [9973], [127862], [129474], [127484, 127480], [127480, 127474], [128097], [129386]]),
   ("santa santa_claus santa_claus_dark_skin_tone santa_claus_light_skin_tone",
    [[127877], [127877], [127877, 127999], [127877, 127995]]),
   ("santa_claus_medium-dark_skin_tone santa_claus_medium-light_skin_tone",
    [[127877, 127998], [127877, 127996]]),
   ("santa_claus_medium_skin_tone sari satellite satellite_antenna satisfied saudi_arabia sauropod",
    [[127877, 127997], [129403], [128225], [128225], [128518], [127480, 127462], [129429]]),
   ("saxophone scales scarf school school_backpack school_satchel scissors scorpio scorpion",
    [[127927], [9878], [129507], [127979], [127890], [127890], [9986], [9807], [129410]]),
   ("scorpius scotland scream scream_cat",
    [[9807], [127988, 917607, 917602, 917619, 917603, 917620, 917631], [128561], [128576]]),
   ("scroll seat secret see-no-evil_monkey see_no_evil seedling selfie selfie_dark_skin_tone",
    [[128220], [128186], [12953], [128584], [128584], [127793], [129331], [129331, 127999]]),
   ("selfie_light_skin_tone selfie_medium-dark_skin_tone selfie_medium-light_skin_tone",
    [[129331, 127995], [129331, 127998], [129331, 127996]]),
   ("selfie_medium_skin_tone senegal serbia service_dog",
    [[129331, 127997], [127480, 127475], [127479, 127480], [128021, 8205, 129466]]),
   ("seven seven-thirty seven_o’clock seychelles shallow_pan_of_food shamrock shark",
    [[55, 65039, 8419], [128354], [128342], [127480, 127464], [129368], [9752], [129416]]),
   ("shaved_ice sheaf_of_rice sheep shell shield shinto_shrine ship shirt shit",
    [[127847], [127806], [128017], [128026], [128737], [9961], [128674], [128085], [128169]]),
   ("shoe shooting_star shopping_bags shopping_cart shortcake shorts shower shrimp",
    [[128094], [127776], [128717], [128722], [127856], [129651], [128703], [129424]]),
   ("shuffle_tracks_button shushing_face sierra_leone sign_of_the_horns",
    [[128256], [129323], [127480, 127473], [129304]]),
   ("sign_of_the_horns_dark_skin_tone sign_of_the_horns_light_skin_tone",
    [[129304, 127999], [129304, 127995]]),
   ("sign_of_the_horns_medium-dark_skin_tone sign_of_the_horns_medium-light_skin_tone",
    [[129304, 127998], [129304, 127996]]),
   ("sign_of_the_horns_medium_skin_tone signal_strength singapore sint_maarten six six-thirty",
    [[129304, 127997], [128246], [127480, 127468], [127480, 127485], [54, 65039, 8419], [128353]]),
   ("six_o’clock six_pointed_star skateboard ski skier skis skull skull_and_crossbones skunk",
    [[128341], [128303], [128761], [127935], [9975], [127935], [128128], [9760], [129448]]),
   ("sled sleeping sleeping_accommodation sleeping_face sleepy sleepy_face sleuth_or_spy",
    [[128759], [128564], [128716], [128564], [128554], [128554], [128373]]),
   ("slightly_frowning_face slightly_smiling_face slot_machine sloth slovakia slovenia",
    [[128577], [128578], [127920], [129445], [127480, 127472], [127480, 127470]]),
   ("small_airplane small_blue_diamond small_orange_diamond small_red_triangle",
    [[128745], [128313], [128312], [128314]]),
   ("small_red_triangle_down smile smile_cat smiley smiley_cat smiling_cat_face_with_heart-eyes",
    [[128315], [128516], [128568], [128515], [128570], [128571]]),
   ("smiling_face smiling_face_with_3_hearts smiling_face_with_halo smiling_face_with_heart-eyes",
    [[9786], [129392], [128519], [128525]]),
   ("smiling_face_with_horns smiling_face_with_smiling_eyes smiling_face_with_sunglasses",
    [[128520], [128522], [128526]]),
   ("smiling_imp smirk smirk_cat smirking_face smoking snail snake sneezing_face",
    [[128520], [128527], [128572], [128527], [128684], [128012], [128013], [129319]]),
   ("snow-capped_mountain snow_capped_mountain snowboarder snowboarder_dark_skin_tone",
    [[127956], [127956], [127938], [127938, 127999]]),
   ("snowboarder_light_skin_tone snowboarder_medium-dark_skin_tone",
    [[127938, 127995], [127938, 127998]]),
   ("snowboarder_medium-light_skin_tone snowboarder_medium_skin_tone snowflake snowman",
    [[127938, 127996], [127938, 127997], [10052], [9731]]),
   ("snowman_without_snow soap sob soccer soccer_ball socks soft_ice_cream softball",
    [[9924], [129532], [128557], [9917], [9917], [129510], [127846], [129358]]),
   ("solomon_islands somalia soon soon_arrow sos sos_button sound",
    [[127480, 127463], [127480, 127476], [128284], [128284], [127384], [127384], [128265]]),
   ("south_africa south_georgia_&_south_sandwich_islands south_korea south_sudan space_invader",
    [[127487, 127462], [127468, 127480], [127472, 127479], [127480, 127480], [128126]]),
   ("spade_suit spades spaghetti spain sparkle sparkler sparkles sparkling_heart",
    [[9824], [9824], [127837], [127466, 127480], [10055], [127879], [10024], [128150]]),
   ("speak-no-evil_monkey speak_no_evil speaker speaker_high_volume speaker_low_volume",
    [[128586], [128586], [128264], [128266], [128264]]),
   ("speaker_medium_volume speaking_head speaking_head_in_silhouette speech_balloon speedboat",
    [[128265], [128483], [128483], [128172], [128676]]),
   ("spider spider_web spiral_calendar spiral_calendar_pad spiral_note_pad spiral_notepad",
    [[128375], [128376], [128467], [128467], [128466], [128466]]),
   ("spiral_shell sponge spoon sport_utility_vehicle sports_medal spouting_whale squid",
    [[128026], [129533], [129348], [128665], [127941], [128051], [129425]]),
   ("squinting_face_with_tongue sri_lanka st._barthélemy st._helena st._kitts_&_nevis",
    [[128541], [127473, 127472], [127463, 127473], [127480, 127469], [127472, 127475]]),
   ("st._lucia st._martin st._pierre_&_miquelon st._vincent_&_grenadines stadium star",
    [[127473, 127464], [127474, 127467], [127477, 127474], [127483, 127464], [127967], [11088]]),
   ("star-struck star2 star_and_crescent star_of_david stars station statue_of_liberty",
    [[129321], [127775], [9770], [10017], [127776], [128649], [128509]]),
   ("steam_locomotive steaming_bowl stethoscope stew stop_button stop_sign stopwatch",
    [[128642], [127836], [129658], [127858], [9209], [128721], [9201]]),
   ("straight_ruler strawberry stuck_out_tongue stuck_out_tongue_closed_eyes",
    [[128207], [127827], [128539], [128541]]),
   ("stuck_out_tongue_winking_eye studio_microphone stuffed_flatbread sudan sun sun_behind_cloud",
    [[128540], [127897], [129369], [127480, 127465], [9728], [9925]]),
   ("sun_behind_large_cloud sun_behind_rain_cloud sun_behind_small_cloud sun_with_face sunflower",
    [[127781], [127782], [127780], [127774], [127803]]),
   ("sunglasses sunny sunrise sunrise_over_mountains sunset superhero supervillain surfer",
    [[128526], [9728], [127749], [127748], [127751], [129464], [129465], [127940]]),
   ("suriname sushi suspension_railway svalbard_&_jan_mayen swan swaziland sweat",
    [[127480, 127479], [127843], [128671], [127480, 127471], [129442], [127480, 127487], [128531]]),
   ("sweat_droplets sweat_drops sweat_smile sweden sweet_potato swimmer switzerland",
    [[128166], [128166], [128517], [127480, 127466], [127840], [127946], [127464, 127469]]),
   ("symbols synagogue syria syringe são_tomé_&_príncipe t-rex t-shirt",
    [[128291], [128333], [127480, 127486], [128137], [127480, 127481], [129430], [128085]]),
   ("table_tennis_paddle_and_ball taco tada taiwan tajikistan takeout_box tanabata_tree",
    [[127955], [127790], [127881], [127481, 127484], [127481, 127471], [129377], [127883]]),
   ("tangerine tanzania taurus taxi tea teacup_without_handle tear-off_calendar teddy_bear",
    [[127818], [127481, 127487], [9801], [128661], [127861], [127861], [128198], [129528]]),
   ("telephone telephone_receiver telescope television ten ten-thirty ten_o’clock tennis tent",
    [[9742], [128222], [128301], [128250], [128287], [128357], [128345], [127934], [9978]]),
   ("test_tube thailand thermometer thinking_face thought_balloon thread three",
    [[129514], [127481, 127469], [127777], [129300], [128173], [129525], [51, 65039, 8419]]),
   ("three-thirty three_button_mouse three_o’clock thumbs_down thumbs_down_dark_skin_tone",
    [[128350], [128433], [128338], [128078], [128078, 127999]]),
   ("thumbs_down_light_skin_tone thumbs_down_medium-dark_skin_tone",
    [[128078, 127995], [128078, 127998]]),
   ("thumbs_down_medium-light_skin_tone thumbs_down_medium_skin_tone thumbs_up",
    [[128078, 127996], [128078, 127997], [128077]]),
   ("thumbs_up_dark_skin_tone thumbs_up_light_skin_tone thumbs_up_medium-dark_skin_tone",
    [[128077, 127999], [128077, 127995], [128077, 127998]]),
   ("thumbs_up_medium-light_skin_tone thumbs_up_medium_skin_tone thumbsdown thumbsup",
    [[128077, 127996], [128077, 127997], [128078], [128077]]),
   ("thunder_cloud_and_rain ticket tiger tiger2 tiger_face timer_clock timor-leste tired_face tm",
    [[9928], [127915], [128047], [128005], [128047], [9202], [127481, 127473], [128555], [8482]]),
   ("togo toilet tokelau tokyo_tower tomato tonga tongue",
    [[127481, 127468], [128701], [127481, 127472], [128508], [127813], [127481, 127476], [128069]]),
   ("toolbox tooth top top_arrow top_hat tophat tornado trackball tractor",
    [[129520], [129463], [128285], [128285], [127913], [127913], [127786], [128434], [128668]]),
   ("trade_mark traffic_light train train2 tram tram_car triangular_flag triangular_flag_on_post",
    [[8482], [128677], [128651], [128646], [128650], [128651], [128681], [128681]]),
   ("triangular_ruler trident trident_emblem trinidad_&_tobago tristan_da_cunha triumph trolleybus",
    [[128208], [128305], [128305], [127481, 127481], [127481, 127462], [128548], [128654]]),
   ("trophy tropical_drink tropical_fish truck trumpet tshirt tulip tumbler_glass",
    [[127942], [127865], [128032], [128666], [127930], [128085], [127799], [129347]]),
   ("tunisia turkey turkmenistan turks_&_caicos_islands turtle tuvalu",
    [[127481, 127475], [129411], [127481, 127474], [127481, 127464], [128034], [127481, 127483]]),
   ("tv twelve-thirty twelve_o’clock twisted_rightwards_arrows two two-hump_camel two-thirty",
    [[128250], [128359], [128347], [128256], [50, 65039, 8419], [128043], [128349]]),
   ("two_hearts two_men_holding_hands two_o’clock two_women_holding_hands u.s._outlying_islands",
    [[128149], [128108], [128337], [128109], [127482, 127474]]),
   ("u.s._virgin_islands u5272 u5408 u55b6 u6307 u6708 u6709 u6e80",
    [[127483, 127470], [127545], [127540], [127546], [127535], [127543], [127542], [127541]]),
   ("u7121 u7533 u7981 u7a7a uganda ukraine umbrella umbrella_on_ground",
    [[127514], [127544], [127538], [127539], [127482, 127468], [127482, 127462], [9730], [9969]]),
   ("umbrella_with_rain_drops unamused unamused_face underage unicorn_face united_arab_emirates",
    [[9748], [128530], [128530], [128286], [129412], [127462, 127466]]),
   ("united_kingdom united_nations united_states unlock unlocked up up!_button",
    [[127468, 127463], [127482, 127475], [127482, 127480], [128275], [128275], [127385], [127385]]),
   ("up-down_arrow up-left_arrow up-right_arrow up_arrow upside-down_face upside__down_face",
    [[8597], [8598], [8599], [11014], [128579], [128579]]),
   ("upwards_button uruguay uzbekistan v vampire vampire_dark_skin_tone",
    [[128316], [127482, 127486], [127482, 127487], [9996], [129499], [129499, 127999]]),
   ("vampire_light_skin_tone vampire_medium-dark_skin_tone vampire_medium-light_skin_tone",
    [[129499, 127995], [129499, 127998], [129499, 127996]]),
   ("vampire_medium_skin_tone vanuatu vatican_city venezuela vertical_traffic_light vhs",
    [[129499, 127997], [127483, 127482], [127483, 127462], [127483, 127466], [128678], [128252]]),
   ("vibration_mode victory_hand victory_hand_dark_skin_tone victory_hand_light_skin_tone",
    [[128243], [9996], [9996, 127999], [9996, 127995]]),
   ("victory_hand_medium-dark_skin_tone victory_hand_medium-light_skin_tone",
    [[9996, 127998], [9996, 127996]]),
   ("victory_hand_medium_skin_tone video_camera video_game videocassette vietnam violin virgo",
    [[9996, 127997], [128249], [127918], [128252], [127483, 127475], [127931], [9805]]),
   ("volcano volleyball vs vs_button vulcan_salute vulcan_salute_dark_skin_tone",
    [[127755], [127952], [127386], [127386], [128406], [128406, 127999]]),
   ("vulcan_salute_light_skin_tone vulcan_salute_medium-dark_skin_tone",
    [[128406, 127995], [128406, 127998]]),
   ("vulcan_salute_medium-light_skin_tone vulcan_salute_medium_skin_tone waffle",
    [[128406, 127996], [128406, 127997], [129479]]),
   ("wales walking wallis_&_futuna",
    [[127988, 917607, 917602, 917623, 917612, 917619, 917631], [128694], [127484, 127467]]),
   ("waning_crescent_moon waning_gibbous_moon warning wastebasket watch water_buffalo water_closet",
    [[127768], [127766], [9888], [128465], [8986], [128003], [128702]]),
   ("water_wave watermelon wave waving_black_flag waving_hand waving_hand_dark_skin_tone",
    [[127754], [127817], [128075], [127988], [128075], [128075, 127999]]),
   ("waving_hand_light_skin_tone waving_hand_medium-dark_skin_tone",
    [[128075, 127995], [128075, 127998]]),
   ("waving_hand_medium-light_skin_tone waving_hand_medium_skin_tone waving_white_flag wavy_dash",
    [[128075, 127996], [128075, 127997], [127987], [12336]]),
   ("waxing_crescent_moon waxing_gibbous_moon wc weary weary_cat_face weary_face wedding",
    [[127762], [127764], [128702], [128553], [128576], [128553], [128146]]),
   ("weight_lifter western_sahara whale whale2 wheel_of_dharma wheelchair wheelchair_symbol",
    [[127947], [127466, 127469], [128051], [128011], [9784], [9855], [9855]]),
   ("white-haired_man white-haired_woman white_check_mark white_circle white_exclamation_mark",
    [[128104, 8205, 129459], [128105, 8205, 129459], [9989], [9898], [10069]]),
   ("white_flag white_flower white_frowning_face white_hair white_heart white_heavy_check_mark",
    [[127987], [128174], [9785], [129459], [129293], [9989]]),
   ("white_large_square white_medium-small_square white_medium_small_square white_medium_square",
    [[11036], [9725], [9725], [9723]]),
   ("white_medium_star white_question_mark white_small_square white_square_button",
    [[11088], [10068], [9643], [128307]]),
   ("white_sun_behind_cloud white_sun_behind_cloud_with_rain white_sun_with_small_cloud",
    [[127781], [127782], [127780]]),
   ("wilted_flower wind_blowing_face wind_chime wind_face wine_glass wink winking_face",
    [[129344], [127788], [127888], [127788], [127863], [128521], [128521]]),
   ("winking_face_with_tongue wolf wolf_face woman woman_artist",
    [[128540], [128058], [128058], [128105], [128105, 8205, 127912]]),
   ("woman_artist_dark_skin_tone woman_artist_light_skin_tone",
    [[128105, 127999, 8205, 127912], [128105, 127995, 8205, 127912]]),
   ("woman_artist_medium-dark_skin_tone woman_artist_medium-light_skin_tone",
    [[128105, 127998, 8205, 127912], [128105, 127996, 8205, 127912]]),
   ("woman_artist_medium_skin_tone woman_astronaut woman_astronaut_dark_skin_tone",
    [[128105, 127997, 8205, 127912], [128105, 8205, 128640], [128105, 127999, 8205, 128640]]),
   ("woman_astronaut_light_skin_tone woman_astronaut_medium-dark_skin_tone",
    [[128105, 127995, 8205, 128640], [128105, 127998, 8205, 128640]]),
   ("woman_astronaut_medium-light_skin_tone woman_astronaut_medium_skin_tone woman_biking",
    [[128105, 127996, 8205, 128640], [128105, 127997, 8205, 128640], [128692, 8205, 9792, 65039]]),
   ("woman_biking_dark_skin_tone woman_biking_light_skin_tone",
    [[128692, 127999, 8205, 9792, 65039], [128692, 127995, 8205, 9792, 65039]]),
   ("woman_biking_medium-dark_skin_tone woman_biking_medium-light_skin_tone",
    [[128692, 127998, 8205, 9792, 65039], [128692, 127996, 8205, 9792, 65039]]),
   ("woman_biking_medium_skin_tone woman_bouncing_ball",
    [[128692, 127997, 8205, 9792, 65039], [9977, 65039, 8205, 9792, 65039]]),
   ("woman_bouncing_ball_dark_skin_tone woman_bouncing_ball_light_skin_tone",
    [[9977, 127999, 8205, 9792, 65039], [9977, 127995, 8205, 9792, 65039]]),
   ("woman_bouncing_ball_medium-dark_skin_tone woman_bouncing_ball_medium-light_skin_tone",
    [[9977, 127998, 8205, 9792, 65039], [9977, 127996, 8205, 9792, 65039]]),
   ("woman_bouncing_ball_medium_skin_tone woman_bowing",
    [[9977, 127997, 8205, 9792, 65039], [128583, 8205, 9792, 65039]]),
   ("woman_bowing_dark_skin_tone woman_bowing_light_skin_tone",
    [[128583, 127999, 8205, 9792, 65039], [128583, 127995, 8205, 9792, 65039]]),
   ("woman_bowing_medium-dark_skin_tone woman_bowing_medium-light_skin_tone",
    [[128583, 127998, 8205, 9792, 65039], [128583, 127996, 8205, 9792, 65039]]),
   ("woman_bowing_medium_skin_tone woman_cartwheeling",
    [[128583, 127997, 8205, 9792, 65039], [129336, 8205, 9792, 65039]]),
   ("woman_cartwheeling_dark_skin_tone woman_cartwheeling_light_skin_tone",
    [[129336, 127999, 8205, 9792, 65039], [129336, 127995, 8205, 9792, 65039]]),
   ("woman_cartwheeling_medium-dark_skin_tone woman_cartwheeling_medium-light_skin_tone",
    [[129336, 127998, 8205, 9792, 65039], [129336, 127996, 8205, 9792, 65039]]),
   ("woman_cartwheeling_medium_skin_tone woman_climbing",
    [[129336, 127997, 8205, 9792, 65039], [129495, 8205, 9792, 65039]]),
   ("woman_climbing_dark_skin_tone woman_climbing_light_skin_tone",
    [[129495, 127999, 8205, 9792, 65039], [129495, 127995, 8205, 9792, 65039]]),
   ("woman_climbing_medium-dark_skin_tone woman_climbing_medium-light_skin_tone",
    [[129495, 127998, 8205, 9792, 65039], [129495, 127996, 8205, 9792, 65039]]),
   ("woman_climbing_medium_skin_tone woman_construction_worker",
    [[129495, 127997, 8205, 9792, 65039], [128119, 8205, 9792, 65039]]),
   ("woman_construction_worker_dark_skin_tone woman_construction_worker_light_skin_tone",
    [[128119, 127999, 8205, 9792, 65039], [128119, 127995, 8205, 9792, 65039]]),
   ("woman_construction_worker_medium-dark_skin_tone",
    [[128119, 127998, 8205, 9792, 65039]]),
   ("woman_construction_worker_medium-light_skin_tone woman_construction_worker_medium_skin_tone",
    [[128119, 127996, 8205, 9792, 65039], [128119, 127997, 8205, 9792, 65039]]),
   ("woman_cook woman_cook_dark_skin_tone woman_cook_light_skin_tone",
    [[128105, 8205, 127859], [128105, 127999, 8205, 127859], [128105, 127995, 8205, 127859]]),
   ("woman_cook_medium-dark_skin_tone woman_cook_medium-light_skin_tone",
    [[128105, 127998, 8205, 127859], [128105, 127996, 8205, 127859]]),
   ("woman_cook_medium_skin_tone woman_dancing woman_dancing_dark_skin_tone",
    [[128105, 127997, 8205, 127859], [128131], [128131, 127999]]),
   ("woman_dancing_light_skin_tone woman_dancing_medium-dark_skin_tone",
    [[128131, 127995], [128131, 127998]]),
   ("woman_dancing_medium-light_skin_tone woman_dancing_medium_skin_tone woman_dark_skin_tone",
    [[128131, 127996], [128131, 127997], [128105, 127999]]),
   ("woman_detective woman_detective_dark_skin_tone",
    [[128373, 65039, 8205, 9792, 65039], [128373, 127999, 8205, 9792, 65039]]),
   ("woman_detective_light_skin_tone woman_detective_medium-dark_skin_tone",
    [[128373, 127995, 8205, 9792, 65039], [128373, 127998, 8205, 9792, 65039]]),
   ("woman_detective_medium-light_skin_tone woman_detective_medium_skin_tone",
    [[128373, 127996, 8205, 9792, 65039], [128373, 127997, 8205, 9792, 65039]]),
   ("woman_elf woman_elf_dark_skin_tone",
    [[129501, 8205, 9792, 65039], [129501, 127999, 8205, 9792, 65039]]),
   ("woman_elf_light_skin_tone woman_elf_medium-dark_skin_tone",
    [[129501, 127995, 8205, 9792, 65039], [129501, 127998, 8205, 9792, 65039]]),
   ("woman_elf_medium-light_skin_tone woman_elf_medium_skin_tone",
    [[129501, 127996, 8205, 9792, 65039], [129501, 127997, 8205, 9792, 65039]]),
   ("woman_facepalming woman_facepalming_dark_skin_tone",
    [[129318, 8205, 9792, 65039], [129318, 127999, 8205, 9792, 65039]]),
   ("woman_facepalming_light_skin_tone woman_facepalming_medium-dark_skin_tone",
    [[129318, 127995, 8205, 9792, 65039], [129318, 127998, 8205, 9792, 65039]]),
   ("woman_facepalming_medium-light_skin_tone woman_facepalming_medium_skin_tone",
    [[129318, 127996, 8205, 9792, 65039], [129318, 127997, 8205, 9792, 65039]]),
   ("woman_factory_worker woman_factory_worker_dark_skin_tone woman_factory_worker_light_skin_tone",
    [[128105, 8205, 127981], [128105, 127999, 8205, 127981], [128105, 127995, 8205, 127981]]),
   ("woman_factory_worker_medium-dark_skin_tone woman_factory_worker_medium-light_skin_tone",
    [[128105, 127998, 8205, 127981], [128105, 127996, 8205, 127981]]),
   ("woman_factory_worker_medium_skin_tone woman_fairy",
    [[128105, 127997, 8205, 127981], [129498, 8205, 9792, 65039]]),
   ("woman_fairy_dark_skin_tone woman_fairy_light_skin_tone",
    [[129498, 127999, 8205, 9792, 65039], [129498, 127995, 8205, 9792, 65039]]),
   ("woman_fairy_medium-dark_skin_tone woman_fairy_medium-light_skin_tone",
    [[129498, 127998, 8205, 9792, 65039], [129498, 127996, 8205, 9792, 65039]]),
   ("woman_fairy_medium_skin_tone woman_farmer woman_farmer_dark_skin_tone",
    [[129498, 127997, 8205, 9792, 65039], [128105, 8205, 127806], [128105, 127999, 8205, 127806]]),
   ("woman_farmer_light_skin_tone woman_farmer_medium-dark_skin_tone",
    [[128105, 127995, 8205, 127806], [128105, 127998, 8205, 127806]]),
   ("woman_farmer_medium-light_skin_tone woman_farmer_medium_skin_tone woman_firefighter",
    [[128105, 127996, 8205, 127806], [128105, 127997, 8205, 127806], [128105, 8205, 128658]]),
   ("woman_firefighter_dark_skin_tone woman_firefighter_light_skin_tone",
    [[128105, 127999, 8205, 128658], [128105, 127995, 8205, 128658]]),
   ("woman_firefighter_medium-dark_skin_tone woman_firefighter_medium-light_skin_tone",
    [[128105, 127998, 8205, 128658], [128105, 127996, 8205, 128658]]),
   ("woman_firefighter_medium_skin_tone woman_frowning",
    [[128105, 127997, 8205, 128658], [128589, 8205, 9792, 65039]]),
   ("woman_frowning_dark_skin_tone woman_frowning_light_skin_tone",
    [[128589, 127999, 8205, 9792, 65039], [128589, 127995, 8205, 9792, 65039]]),
   ("woman_frowning_medium-dark_skin_tone woman_frowning_medium-light_skin_tone",
    [[128589, 127998, 8205, 9792, 65039], [128589, 127996, 8205, 9792, 65039]]),
   ("woman_frowning_medium_skin_tone woman_genie",
    [[128589, 127997, 8205, 9792, 65039], [129502, 8205, 9792, 65039]]),
   ("woman_gesturing_no woman_gesturing_no_dark_skin_tone",
    [[128581, 8205, 9792, 65039], [128581, 127999, 8205, 9792, 65039]]),
   ("woman_gesturing_no_light_skin_tone woman_gesturing_no_medium-dark_skin_tone",
    [[128581, 127995, 8205, 9792, 65039], [128581, 127998, 8205, 9792, 65039]]),
   ("woman_gesturing_no_medium-light_skin_tone woman_gesturing_no_medium_skin_tone",
    [[128581, 127996, 8205, 9792, 65039], [128581, 127997, 8205, 9792, 65039]]),
   ("woman_gesturing_ok woman_gesturing_ok_dark_skin_tone",
    [[128582, 8205, 9792, 65039], [128582, 127999, 8205, 9792, 65039]]),
   ("woman_gesturing_ok_light_skin_tone woman_gesturing_ok_medium-dark_skin_tone",
    [[128582, 127995, 8205, 9792, 65039], [128582, 127998, 8205, 9792, 65039]]),
   ("woman_gesturing_ok_medium-light_skin_tone woman_gesturing_ok_medium_skin_tone",
    [[128582, 127996, 8205, 9792, 65039], [128582, 127997, 8205, 9792, 65039]]),
   ("woman_getting_haircut woman_getting_haircut_dark_skin_tone",
    [[128135, 8205, 9792, 65039], [128135, 127999, 8205, 9792, 65039]]),
   ("woman_getting_haircut_light_skin_tone woman_getting_haircut_medium-dark_skin_tone",
    [[128135, 127995, 8205, 9792, 65039], [128135, 127998, 8205, 9792, 65039]]),
   ("woman_getting_haircut_medium-light_skin_tone woman_getting_haircut_medium_skin_tone",
    [[128135, 127996, 8205, 9792, 65039], [128135, 127997, 8205, 9792, 65039]]),
   ("woman_getting_massage woman_getting_massage_dark_skin_tone",
    [[128134, 8205, 9792, 65039], [128134, 127999, 8205, 9792, 65039]]),
   ("woman_getting_massage_light_skin_tone woman_getting_massage_medium-dark_skin_tone",
    [[128134, 127995, 8205, 9792, 65039], [128134, 127998, 8205, 9792, 65039]]),
   ("woman_getting_massage_medium-light_skin_tone woman_getting_massage_medium_skin_tone",
    [[128134, 127996, 8205, 9792, 65039], [128134, 127997, 8205, 9792, 65039]]),
   ("woman_golfing woman_golfing_dark_skin_tone",
    [[127948, 65039, 8205, 9792, 65039], [127948, 127999, 8205, 9792, 65039]]),
   ("woman_golfing_light_skin_tone woman_golfing_medium-dark_skin_tone",
    [[127948, 127995, 8205, 9792, 65039], [127948, 127998, 8205, 9792, 65039]]),
   ("woman_golfing_medium-light_skin_tone woman_golfing_medium_skin_tone",
    [[127948, 127996, 8205, 9792, 65039], [127948, 127997, 8205, 9792, 65039]]),
   ("woman_guard woman_guard_dark_skin_tone",
    [[128130, 8205, 9792, 65039], [128130, 127999, 8205, 9792, 65039]]),
   ("woman_guard_light_skin_tone woman_guard_medium-dark_skin_tone",
    [[128130, 127995, 8205, 9792, 65039], [128130, 127998, 8205, 9792, 65039]]),
   ("woman_guard_medium-light_skin_tone woman_guard_medium_skin_tone",
    [[128130, 127996, 8205, 9792, 65039], [128130, 127997, 8205, 9792, 65039]]),
   ("woman_health_worker woman_health_worker_dark_skin_tone",
    [[128105, 8205, 9877, 65039], [128105, 127999, 8205, 9877, 65039]]),
   ("woman_health_worker_light_skin_tone woman_health_worker_medium-dark_skin_tone",
    [[128105, 127995, 8205, 9877, 65039], [128105, 127998, 8205, 9877, 65039]]),
   ("woman_health_worker_medium-light_skin_tone woman_health_worker_medium_skin_tone",
    [[128105, 127996, 8205, 9877, 65039], [128105, 127997, 8205, 9877, 65039]]),
   ("woman_in_lotus_position woman_in_lotus_position_dark_skin_tone",
    [[129496, 8205, 9792, 65039], [129496, 127999, 8205, 9792, 65039]]),
   ("woman_in_lotus_position_light_skin_tone woman_in_lotus_position_medium-dark_skin_tone",
    [[129496, 127995, 8205, 9792, 65039], [129496, 127998, 8205, 9792, 65039]]),
   ("woman_in_lotus_position_medium-light_skin_tone woman_in_lotus_position_medium_skin_tone",
    [[129496, 127996, 8205, 9792, 65039], [129496, 127997, 8205, 9792, 65039]]),
   ("woman_in_manual_wheelchair woman_in_motorized_wheelchair woman_in_steamy_room",
    [[128105, 8205, 129469], [128105, 8205, 129468], [129494, 8205, 9792, 65039]]),
   ("woman_in_steamy_room_dark_skin_tone woman_in_steamy_room_light_skin_tone",
    [[129494, 127999, 8205, 9792, 65039], [129494, 127995, 8205, 9792, 65039]]),
   ("woman_in_steamy_room_medium-dark_skin_tone woman_in_steamy_room_medium-light_skin_tone",
    [[129494, 127998, 8205, 9792, 65039], [129494, 127996, 8205, 9792, 65039]]),
   ("woman_in_steamy_room_medium_skin_tone woman_judge",
    [[129494, 127997, 8205, 9792, 65039], [128105, 8205, 9878, 65039]]),
   ("woman_judge_dark_skin_tone woman_judge_light_skin_tone",
    [[128105, 127999, 8205, 9878, 65039], [128105, 127995, 8205, 9878, 65039]]),
   ("woman_judge_medium-dark_skin_tone woman_judge_medium-light_skin_tone",
    [[128105, 127998, 8205, 9878, 65039], [128105, 127996, 8205, 9878, 65039]]),
   ("woman_judge_medium_skin_tone woman_juggling",
    [[128105, 127997, 8205, 9878, 65039], [129337, 8205, 9792, 65039]]),
   ("woman_juggling_dark_skin_tone woman_juggling_light_skin_tone",
    [[129337, 127999, 8205, 9792, 65039], [129337, 127995, 8205, 9792, 65039]]),
   ("woman_juggling_medium-dark_skin_tone woman_juggling_medium-light_skin_tone",
    [[129337, 127998, 8205, 9792, 65039], [129337, 127996, 8205, 9792, 65039]]),
   ("woman_juggling_medium_skin_tone woman_lifting_weights",
    [[129337, 127997, 8205, 9792, 65039], [127947, 65039, 8205, 9792, 65039]]),
   ("woman_lifting_weights_dark_skin_tone woman_lifting_weights_light_skin_tone",
    [[127947, 127999, 8205, 9792, 65039], [127947, 127995, 8205, 9792, 65039]]),
   ("woman_lifting_weights_medium-dark_skin_tone woman_lifting_weights_medium-light_skin_tone",
    [[127947, 127998, 8205, 9792, 65039], [127947, 127996, 8205, 9792, 65039]]),
   ("woman_lifting_weights_medium_skin_tone woman_light_skin_tone woman_mage",
    [[127947, 127997, 8205, 9792, 65039], [128105, 127995], [129497, 8205, 9792, 65039]]),
   ("woman_mage_dark_skin_tone woman_mage_light_skin_tone",
    [[129497, 127999, 8205, 9792, 65039], [129497, 127995, 8205, 9792, 65039]]),
   ("woman_mage_medium-dark_skin_tone woman_mage_medium-light_skin_tone",
    [[129497, 127998, 8205, 9792, 65039], [129497, 127996, 8205, 9792, 65039]]),
   ("woman_mage_medium_skin_tone woman_mechanic woman_mechanic_dark_skin_tone",
    [[129497, 127997, 8205, 9792, 65039], [128105, 8205, 128295], [128105, 127999, 8205, 128295]]),
   ("woman_mechanic_light_skin_tone woman_mechanic_medium-dark_skin_tone",
    [[128105, 127995, 8205, 128295], [128105, 127998, 8205, 128295]]),
   ("woman_mechanic_medium-light_skin_tone woman_mechanic_medium_skin_tone",
    [[128105, 127996, 8205, 128295], [128105, 127997, 8205, 128295]]),
   ("woman_medium-dark_skin_tone woman_medium-light_skin_tone woman_medium_skin_tone",
    [[128105, 127998], [128105, 127996], [128105, 127997]]),
   ("woman_mountain_biking woman_mountain_biking_dark_skin_tone",
    [[128693, 8205, 9792, 65039], [128693, 127999, 8205, 9792, 65039]]),
   ("woman_mountain_biking_light_skin_tone woman_mountain_biking_medium-dark_skin_tone",
    [[128693, 127995, 8205, 9792, 65039], [128693, 127998, 8205, 9792, 65039]]),
   ("woman_mountain_biking_medium-light_skin_tone woman_mountain_biking_medium_skin_tone",
    [[128693, 127996, 8205, 9792, 65039], [128693, 127997, 8205, 9792, 65039]]),
   ("woman_office_worker woman_office_worker_dark_skin_tone woman_office_worker_light_skin_tone",
    [[128105, 8205, 128188], [128105, 127999, 8205, 128188], [128105, 127995, 8205, 128188]]),
   ("woman_office_worker_medium-dark_skin_tone woman_office_worker_medium-light_skin_tone",
    [[128105, 127998, 8205, 128188], [128105, 127996, 8205, 128188]]),
   ("woman_office_worker_medium_skin_tone woman_pilot",
    [[128105, 127997, 8205, 128188], [128105, 8205, 9992, 65039]]),
   ("woman_pilot_dark_skin_tone woman_pilot_light_skin_tone",
    [[128105, 127999, 8205, 9992, 65039], [128105, 127995, 8205, 9992, 65039]]),
   ("woman_pilot_medium-dark_skin_tone woman_pilot_medium-light_skin_tone",
    [[128105, 127998, 8205, 9992, 65039], [128105, 127996, 8205, 9992, 65039]]),
   ("woman_pilot_medium_skin_tone woman_playing_handball",
    [[128105, 127997, 8205, 9992, 65039], [129342, 8205, 9792, 65039]]),
   ("woman_playing_handball_dark_skin_tone woman_playing_handball_light_skin_tone",
    [[129342, 127999, 8205, 9792, 65039], [129342, 127995, 8205, 9792, 65039]]),
   ("woman_playing_handball_medium-dark_skin_tone woman_playing_handball_medium-light_skin_tone",
    [[129342, 127998, 8205, 9792, 65039], [129342, 127996, 8205, 9792, 65039]]),
   ("woman_playing_handball_medium_skin_tone woman_playing_water_polo",
    [[129342, 127997, 8205, 9792, 65039], [129341, 8205, 9792, 65039]]),
   ("woman_playing_water_polo_dark_skin_tone woman_playing_water_polo_light_skin_tone",
    [[129341, 127999, 8205, 9792, 65039], [129341, 127995, 8205, 9792, 65039]]),
   ("woman_playing_water_polo_medium-dark_skin_tone",
    [[129341, 127998, 8205, 9792, 65039]]),
   ("woman_playing_water_polo_medium-light_skin_tone woman_playing_water_polo_medium_skin_tone",
    [[129341, 127996, 8205, 9792, 65039], [129341, 127997, 8205, 9792, 65039]]),
   ("woman_police_officer woman_police_officer_dark_skin_tone",
    [[128110, 8205, 9792, 65039], [128110, 127999, 8205, 9792, 65039]]),
   ("woman_police_officer_light_skin_tone woman_police_officer_medium-dark_skin_tone",
    [[128110, 127995, 8205, 9792, 65039], [128110, 127998, 8205, 9792, 65039]]),
   ("woman_police_officer_medium-light_skin_tone woman_police_officer_medium_skin_tone",
    [[128110, 127996, 8205, 9792, 65039], [128110, 127997, 8205, 9792, 65039]]),
   ("woman_pouting woman_pouting_dark_skin_tone",
    [[128590, 8205, 9792, 65039], [128590, 127999, 8205, 9792, 65039]]),
   ("woman_pouting_light_skin_tone woman_pouting_medium-dark_skin_tone",
    [[128590, 127995, 8205, 9792, 65039], [128590, 127998, 8205, 9792, 65039]]),
   ("woman_pouting_medium-light_skin_tone woman_pouting_medium_skin_tone",
    [[128590, 127996, 8205, 9792, 65039], [128590, 127997, 8205, 9792, 65039]]),
   ("woman_raising_hand woman_raising_hand_dark_skin_tone",
    [[128587, 8205, 9792, 65039], [128587, 127999, 8205, 9792, 65039]]),
   ("woman_raising_hand_light_skin_tone woman_raising_hand_medium-dark_skin_tone",
    [[128587, 127995, 8205, 9792, 65039], [128587, 127998, 8205, 9792, 65039]]),
   ("woman_raising_hand_medium-light_skin_tone woman_raising_hand_medium_skin_tone",
    [[128587, 127996, 8205, 9792, 65039], [128587, 127997, 8205, 9792, 65039]]),
   ("woman_rowing_boat woman_rowing_boat_dark_skin_tone",
    [[128675, 8205, 9792, 65039], [128675, 127999, 8205, 9792, 65039]]),
   ("woman_rowing_boat_light_skin_tone woman_rowing_boat_medium-dark_skin_tone",
    [[128675, 127995, 8205, 9792, 65039], [128675, 127998, 8205, 9792, 65039]]),
   ("woman_rowing_boat_medium-light_skin_tone woman_rowing_boat_medium_skin_tone",
    [[128675, 127996, 8205, 9792, 65039], [128675, 127997, 8205, 9792, 65039]]),
   ("woman_running woman_running_dark_skin_tone",
    [[127939, 8205, 9792, 65039], [127939, 127999, 8205, 9792, 65039]]),
   ("woman_running_light_skin_tone woman_running_medium-dark_skin_tone",
    [[127939, 127995, 8205, 9792, 65039], [127939, 127998, 8205, 9792, 65039]]),
   ("woman_running_medium-light_skin_tone woman_running_medium_skin_tone",
    [[127939, 127996, 8205, 9792, 65039], [127939, 127997, 8205, 9792, 65039]]),
   ("woman_scientist woman_scientist_dark_skin_tone woman_scientist_light_skin_tone",
    [[128105, 8205, 128300], [128105, 127999, 8205, 128300], [128105, 127995, 8205, 128300]]),
   ("woman_scientist_medium-dark_skin_tone woman_scientist_medium-light_skin_tone",
    [[128105, 127998, 8205, 128300], [128105, 127996, 8205, 128300]]),
   ("woman_scientist_medium_skin_tone woman_shrugging",
    [[128105, 127997, 8205, 128300], [129335, 8205, 9792, 65039]]),
   ("woman_shrugging_dark_skin_tone woman_shrugging_light_skin_tone",
    [[129335, 127999, 8205, 9792, 65039], [129335, 127995, 8205, 9792, 65039]]),
   ("woman_shrugging_medium-dark_skin_tone woman_shrugging_medium-light_skin_tone",
    [[129335, 127998, 8205, 9792, 65039], [129335, 127996, 8205, 9792, 65039]]),
   ("woman_shrugging_medium_skin_tone woman_singer woman_singer_dark_skin_tone",
    [[129335, 127997, 8205, 9792, 65039], [128105, 8205, 127908], [128105, 127999, 8205, 127908]]),
   ("woman_singer_light_skin_tone woman_singer_medium-dark_skin_tone",
    [[128105, 127995, 8205, 127908], [128105, 127998, 8205, 127908]]),
   ("woman_singer_medium-light_skin_tone woman_singer_medium_skin_tone woman_student",
    [[128105, 127996, 8205, 127908], [128105, 127997, 8205, 127908], [128105, 8205, 127891]]),
   ("woman_student_dark_skin_tone woman_student_light_skin_tone",
    [[128105, 127999, 8205, 127891], [128105, 127995, 8205, 127891]]),
   ("woman_student_medium-dark_skin_tone woman_student_medium-light_skin_tone",
    [[128105, 127998, 8205, 127891], [128105, 127996, 8205, 127891]]),
   ("woman_student_medium_skin_tone woman_surfing",
    [[128105, 127997, 8205, 127891], [127940, 8205, 9792, 65039]]),
   ("woman_surfing_dark_skin_tone woman_surfing_light_skin_tone",
    [[127940, 127999, 8205, 9792, 65039], [127940, 127995, 8205, 9792, 65039]]),
   ("woman_surfing_medium-dark_skin_tone woman_surfing_medium-light_skin_tone",
    [[127940, 127998, 8205, 9792, 65039], [127940, 127996, 8205, 9792, 65039]]),
   ("woman_surfing_medium_skin_tone woman_swimming",
    [[127940, 127997, 8205, 9792, 65039], [127946, 8205, 9792, 65039]]),
   ("woman_swimming_dark_skin_tone woman_swimming_light_skin_tone",
    [[127946, 127999, 8205, 9792, 65039], [127946, 127995, 8205, 9792, 65039]]),
   ("woman_swimming_medium-dark_skin_tone woman_swimming_medium-light_skin_tone",
    [[127946, 127998, 8205, 9792, 65039], [127946, 127996, 8205, 9792, 65039]]),
   ("woman_swimming_medium_skin_tone woman_teacher woman_teacher_dark_skin_tone",
    [[127946, 127997, 8205, 9792, 65039], [128105, 8205, 127979], [128105, 127999, 8205, 127979]]),
   ("woman_teacher_light_skin_tone woman_teacher_medium-dark_skin_tone",
    [[128105, 127995, 8205, 127979], [128105, 127998, 8205, 127979]]),
   ("woman_teacher_medium-light_skin_tone woman_teacher_medium_skin_tone woman_technologist",
    [[128105, 127996, 8205, 127979], [128105, 127997, 8205, 127979], [128105, 8205, 128187]]),
   ("woman_technologist_dark_skin_tone woman_technologist_light_skin_tone",
    [[128105, 127999, 8205, 128187], [128105, 127995, 8205, 128187]]),
   ("woman_technologist_medium-dark_skin_tone woman_technologist_medium-light_skin_tone",
    [[128105, 127998, 8205, 128187], [128105, 127996, 8205, 128187]]),
   ("woman_technologist_medium_skin_tone woman_tipping_hand",
    [[128105, 127997, 8205, 128187], [128129, 8205, 9792, 65039]]),
   ("woman_tipping_hand_dark_skin_tone woman_tipping_hand_light_skin_tone",
    [[128129, 127999, 8205, 9792, 65039], [128129, 127995, 8205, 9792, 65039]]),
   ("woman_tipping_hand_medium-dark_skin_tone woman_tipping_hand_medium-light_skin_tone",
    [[128129, 127998, 8205, 9792, 65039], [128129, 127996, 8205, 9792, 65039]]),
   ("woman_tipping_hand_medium_skin_tone woman_vampire",
    [[128129, 127997, 8205, 9792, 65039], [129499, 8205, 9792, 65039]]),
   ("woman_vampire_dark_skin_tone woman_vampire_light_skin_tone",
    [[129499, 127999, 8205, 9792, 65039], [129499, 127995, 8205, 9792, 65039]]),
   ("woman_vampire_medium-dark_skin_tone woman_vampire_medium-light_skin_tone",
    [[129499, 127998, 8205, 9792, 65039], [129499, 127996, 8205, 9792, 65039]]),
   ("woman_vampire_medium_skin_tone woman_walking",
    [[129499, 127997, 8205, 9792, 65039], [128694, 8205, 9792, 65039]]),
   ("woman_walking_dark_skin_tone woman_walking_light_skin_tone",
    [[128694, 127999, 8205, 9792, 65039], [128694, 127995, 8205, 9792, 65039]]),
   ("woman_walking_medium-dark_skin_tone woman_walking_medium-light_skin_tone",
    [[128694, 127998, 8205, 9792, 65039], [128694, 127996, 8205, 9792, 65039]]),
   ("woman_walking_medium_skin_tone woman_wearing_turban",
    [[128694, 127997, 8205, 9792, 65039], [128115, 8205, 9792, 65039]]),
   ("woman_wearing_turban_dark_skin_tone woman_wearing_turban_light_skin_tone",
    [[128115, 127999, 8205, 9792, 65039], [128115, 127995, 8205, 9792, 65039]]),
   ("woman_wearing_turban_medium-dark_skin_tone woman_wearing_turban_medium-light_skin_tone",
    [[128115, 127998, 8205, 9792, 65039], [128115, 127996, 8205, 9792, 65039]]),
   ("woman_wearing_turban_medium_skin_tone woman_with_headscarf",
    [[128115, 127997, 8205, 9792, 65039], [129493]]),
   ("woman_with_headscarf_dark_skin_tone woman_with_headscarf_light_skin_tone",
    [[129493, 127999], [129493, 127995]]),
   ("woman_with_headscarf_medium-dark_skin_tone woman_with_headscarf_medium-light_skin_tone",
    [[129493, 127998], [129493, 127996]]),
   ("woman_with_headscarf_medium_skin_tone woman_with_probing_cane woman_zombie womans_clothes",
    [[129493, 127997], [128105, 8205, 129455], [129503, 8205, 9792, 65039], [128090]]),
   ("womans_hat woman’s_boot woman’s_clothes woman’s_hat woman’s_sandal women_with_bunny_ears",
    [[128082], [128098], [128090], [128082], [128097], [128111, 8205, 9792, 65039]]),
   ("women_wrestling womens women’s_room woozy_face world_map worried worried_face",
    [[129340, 8205, 9792, 65039], [128698], [128698], [129396], [128506], [128543], [128543]]),
   ("wrapped_gift wrench writing_hand writing_hand_dark_skin_tone writing_hand_light_skin_tone",
    [[127873], [128295], [9997], [9997, 127999], [9997, 127995]]),
   ("writing_hand_medium-dark_skin_tone writing_hand_medium-light_skin_tone",
    [[9997, 127998], [9997, 127996]]),
   ("writing_hand_medium_skin_tone x yarn yawning_face yellow_circle yellow_heart yellow_square",
    [[9997, 127997], [10060], [129526], [129393], [128993], [128155], [129000]]),
   ("yemen yen yen_banknote yin_yang yo-yo yum zambia zany_face",
    [[127486, 127466], [128180], [128180], [9775], [129664], [128523], [127487, 127474], [129322]]),
   ("zap zebra zero zimbabwe zipper-mouth_face zipper__mouth_face zombie",
    [[9889], [129427], [48, 65039, 8419], [127487, 127484], [129296], [129296], [129503]]),
   ("zzz åland_islands",
    [[128164], [127462, 127485]])]

end CallSites.Text.Emoji
