/-! # Names of pictures

The names that come before `man` in the order of their characters.
-/

namespace CallSites.Text.Emoji

/-- Names of pictures, some in a row, and for each of them the code points it stands for. -/
def earlier : List (String × List (List Nat)) :=
  [("+1 -1 100 1234 1st_place_medal 2nd_place_medal 3rd_place_medal 8ball __1",
    [[128077], [128078], [128175], [128290], [129351], [129352], [129353], [127921], [128078]]),
   ("a a_button_(blood_type) ab ab_button_(blood_type) abacus abc abcd accept adhesive_bandage",
    [[127344], [127344], [127374], [127374], [129518], [128292], [128289], [127569], [129657]]),
   ("admission_tickets adult adult_dark_skin_tone adult_light_skin_tone",
    [[127903], [129489], [129489, 127999], [129489, 127995]]),
   ("adult_medium-dark_skin_tone adult_medium-light_skin_tone adult_medium_skin_tone",
    [[129489, 127998], [129489, 127996], [129489, 127997]]),
   ("aerial_tramway afghanistan airplane airplane_arrival airplane_arriving airplane_departure",
    [[128673], [127462, 127467], [9992], [128748], [128748], [128747]]),
   ("alarm_clock albania alembic algeria alien alien_monster ambulance american_football",
    [[9200], [127462, 127473], [9879], [127465, 127487], [128125], [128126], [128657], [127944]]),
   ("american_samoa amphora anchor andorra angel anger anger_symbol",
    [[127462, 127480], [127994], [9875], [127462, 127465], [128124], [128162], [128162]]),
   ("angola angry angry_face angry_face_with_horns anguilla anguished anguished_face",
    [[127462, 127476], [128544], [128544], [128127], [127462, 127470], [128551], [128551]]),
   ("ant antarctica antenna_bars antigua_&_barbuda anxious_face_with_sweat apple aquarius",
    [[128028], [127462, 127478], [128246], [127462, 127468], [128560], [127822], [9810]]),
   ("argentina aries armenia arrow_backward arrow_double_down arrow_double_up arrow_down",
    [[127462, 127479], [9800], [127462, 127474], [9664], [9196], [9195], [11015]]),
   ("arrow_down_small arrow_forward arrow_heading_down arrow_heading_up arrow_left",
    [[128317], [9654], [10549], [10548], [11013]]),
   ("arrow_lower_left arrow_lower_right arrow_right arrow_right_hook arrow_up arrow_up_down",
    [[8601], [8600], [10145], [8618], [11014], [8597]]),
   ("arrow_up_small arrow_upper_left arrow_upper_right arrows_clockwise arrows_counterclockwise",
    [[128316], [8598], [8599], [128259], [128260]]),
   ("art articulated_lorry artist_palette aruba ascension_island astonished astonished_face",
    [[127912], [128667], [127912], [127462, 127484], [127462, 127464], [128562], [128562]]),
   ("athletic_shoe atm atm_sign atom_symbol australia austria auto_rickshaw automobile",
    [[128095], [127975], [127975], [9883], [127462, 127482], [127462, 127481], [128762], [128663]]),
   ("avocado axe azerbaijan b b_button_(blood_type) baby baby_angel",
    [[129361], [129683], [127462, 127487], [127345], [127345], [128118], [128124]]),
   ("baby_angel_dark_skin_tone baby_angel_light_skin_tone baby_angel_medium-dark_skin_tone",
    [[128124, 127999], [128124, 127995], [128124, 127998]]),
   ("baby_angel_medium-light_skin_tone baby_angel_medium_skin_tone baby_bottle baby_chick",
    [[128124, 127996], [128124, 127997], [127868], [128036]]),
   ("baby_dark_skin_tone baby_light_skin_tone baby_medium-dark_skin_tone",
    [[128118, 127999], [128118, 127995], [128118, 127998]]),
   ("baby_medium-light_skin_tone baby_medium_skin_tone baby_symbol back back_arrow",
    [[128118, 127996], [128118, 127997], [128700], [128281], [128281]]),
   ("backhand_index_pointing_down backhand_index_pointing_down_dark_skin_tone",
    [[128071], [128071, 127999]]),
   ("backhand_index_pointing_down_light_skin_tone",
    [[128071, 127995]]),
   ("backhand_index_pointing_down_medium-dark_skin_tone",
    [[128071, 127998]]),
   ("backhand_index_pointing_down_medium-light_skin_tone",
    [[128071, 127996]]),
   ("backhand_index_pointing_down_medium_skin_tone backhand_index_pointing_left",
    [[128071, 127997], [128072]]),
   ("backhand_index_pointing_left_dark_skin_tone backhand_index_pointing_left_light_skin_tone",
    [[128072, 127999], [128072, 127995]]),
   ("backhand_index_pointing_left_medium-dark_skin_tone",
    [[128072, 127998]]),
   ("backhand_index_pointing_left_medium-light_skin_tone",
    [[128072, 127996]]),
   ("backhand_index_pointing_left_medium_skin_tone backhand_index_pointing_right",
    [[128072, 127997], [128073]]),
   ("backhand_index_pointing_right_dark_skin_tone backhand_index_pointing_right_light_skin_tone",
    [[128073, 127999], [128073, 127995]]),
   ("backhand_index_pointing_right_medium-dark_skin_tone",
    [[128073, 127998]]),
   ("backhand_index_pointing_right_medium-light_skin_tone",
    [[128073, 127996]]),
   ("backhand_index_pointing_right_medium_skin_tone backhand_index_pointing_up",
    [[128073, 127997], [128070]]),
   ("backhand_index_pointing_up_dark_skin_tone backhand_index_pointing_up_light_skin_tone",
    [[128070, 127999], [128070, 127995]]),
   ("backhand_index_pointing_up_medium-dark_skin_tone",
    [[128070, 127998]]),
   ("backhand_index_pointing_up_medium-light_skin_tone backhand_index_pointing_up_medium_skin_tone",
    [[128070, 127996], [128070, 127997]]),
   ("bacon badger badminton badminton_racquet_and_shuttlecock bagel baggage_claim baguette_bread",
    [[129363], [129441], [127992], [127992], [129391], [128708], [129366]]),
   ("bahamas bahrain balance_scale bald bald_man",
    [[127463, 127480], [127463, 127469], [9878], [129458], [128104, 8205, 129458]]),
   ("bald_woman ballet_shoes balloon ballot_box_with_ballot ballot_box_with_check bamboo banana",
    [[128105, 8205, 129458], [129648], [127880], [128499], [9745], [127885], [127820]]),
   ("bangbang bangladesh banjo bank bar_chart barbados barber barber_pole",
    [[8252], [127463, 127465], [129685], [127974], [128202], [127463, 127463], [128136], [128136]]),
   ("baseball basket basketball bat bath bathtub battery beach_with_umbrella",
    [[9918], [129530], [127936], [129415], [128704], [128705], [128267], [127958]]),
   ("beaming_face_with_smiling_eyes bear bear_face bearded_person bearded_person_dark_skin_tone",
    [[128513], [128059], [128059], [129492], [129492, 127999]]),
   ("bearded_person_light_skin_tone bearded_person_medium-dark_skin_tone",
    [[129492, 127995], [129492, 127998]]),
   ("bearded_person_medium-light_skin_tone bearded_person_medium_skin_tone beating_heart bed bee",
    [[129492, 127996], [129492, 127997], [128147], [128719], [128029]]),
   ("beer beer_mug beers beetle beginner belarus belgium",
    [[127866], [127866], [127867], [128030], [128304], [127463, 127486], [127463, 127466]]),
   ("belize bell bell_with_slash bellhop_bell benin bento bento_box",
    [[127463, 127487], [128276], [128277], [128718], [127463, 127471], [127857], [127857]]),
   ("bermuda beverage_box bhutan bicycle bicyclist bike bikini",
    [[127463, 127474], [129475], [127463, 127481], [128690], [128692], [128690], [128089]]),
   ("billed_cap biohazard biohazard_sign bird birthday birthday_cake black_circle",
    [[129506], [9763], [9763], [128038], [127874], [127874], [9899]]),
   ("black_circle_for_record black_flag black_heart black_joker black_large_square",
    [[9210], [127988], [128420], [127183], [11035]]),
   ("black_left__pointing_double_triangle_with_vertical_bar black_medium-small_square",
    [[9198], [9726]]),
   ("black_medium_small_square black_medium_square black_nib",
    [[9726], [9724], [10002]]),
   ("black_right__pointing_double_triangle_with_vertical_bar",
    [[9197]]),
   ("black_right__pointing_triangle_with_double_vertical_bar black_small_square",
    [[9199], [9642]]),
   ("black_square_button black_square_for_stop blond-haired_man blond-haired_man_dark_skin_tone",
    [[128306], [9209], [128113, 8205, 9794, 65039], [128113, 127999, 8205, 9794, 65039]]),
   ("blond-haired_man_light_skin_tone blond-haired_man_medium-dark_skin_tone",
    [[128113, 127995, 8205, 9794, 65039], [128113, 127998, 8205, 9794, 65039]]),
   ("blond-haired_man_medium-light_skin_tone blond-haired_man_medium_skin_tone blond-haired_person",
    [[128113, 127996, 8205, 9794, 65039], [128113, 127997, 8205, 9794, 65039], [128113]]),
   ("blond-haired_person_dark_skin_tone blond-haired_person_light_skin_tone",
    [[128113, 127999], [128113, 127995]]),
   ("blond-haired_person_medium-dark_skin_tone blond-haired_person_medium-light_skin_tone",
    [[128113, 127998], [128113, 127996]]),
   ("blond-haired_person_medium_skin_tone blond-haired_woman blond-haired_woman_dark_skin_tone",
    [[128113, 127997], [128113, 8205, 9792, 65039], [128113, 127999, 8205, 9792, 65039]]),
   ("blond-haired_woman_light_skin_tone blond-haired_woman_medium-dark_skin_tone",
    [[128113, 127995, 8205, 9792, 65039], [128113, 127998, 8205, 9792, 65039]]),
   ("blond-haired_woman_medium-light_skin_tone blond-haired_woman_medium_skin_tone blossom",
    [[128113, 127996, 8205, 9792, 65039], [128113, 127997, 8205, 9792, 65039], [127804]]),
   ("blowfish blue_book blue_car blue_circle blue_heart blue_square blush boar boat",
    [[128033], [128216], [128665], [128309], [128153], [128998], [128522], [128023], [9973]]),
   ("bolivia bomb bone book bookmark bookmark_tabs books boom",
    [[127463, 127476], [128163], [129460], [128214], [128278], [128209], [128218], [128165]]),
   ("boot bosnia_&_herzegovina botswana bottle_with_popping_cork bouquet bouvet_island bow",
    [[128098], [127463, 127462], [127463, 127484], [127870], [128144], [127463, 127483], [128583]]),
   ("bow_and_arrow bowl_with_spoon bowling boxing_glove boy boy_dark_skin_tone boy_light_skin_tone",
    [[127993], [129379], [127923], [129354], [128102], [128102, 127999], [128102, 127995]]),
   ("boy_medium-dark_skin_tone boy_medium-light_skin_tone boy_medium_skin_tone brain brazil bread",
    [[128102, 127998], [128102, 127996], [128102, 127997], [129504], [127463, 127479], [127838]]),
   ("breast-feeding breast-feeding_dark_skin_tone breast-feeding_light_skin_tone",
    [[129329], [129329, 127999], [129329, 127995]]),
   ("breast-feeding_medium-dark_skin_tone breast-feeding_medium-light_skin_tone",
    [[129329, 127998], [129329, 127996]]),
   ("breast-feeding_medium_skin_tone brick bride_with_veil bride_with_veil_dark_skin_tone",
    [[129329, 127997], [129521], [128112], [128112, 127999]]),
   ("bride_with_veil_light_skin_tone bride_with_veil_medium-dark_skin_tone",
    [[128112, 127995], [128112, 127998]]),
   ("bride_with_veil_medium-light_skin_tone bride_with_veil_medium_skin_tone bridge_at_night",
    [[128112, 127996], [128112, 127997], [127753]]),
   ("briefcase briefs bright_button british_indian_ocean_territory british_virgin_islands broccoli",
    [[128188], [129650], [128262], [127470, 127476], [127483, 127468], [129382]]),
   ("broken_heart broom brown_circle brown_heart brown_square brunei bug building_construction",
    [[128148], [129529], [128996], [129294], [129003], [127463, 127475], [128027], [127959]]),
   ("bulb bulgaria bullet_train bullettrain_front bullettrain_side burkina_faso burrito",
    [[128161], [127463, 127468], [128645], [128645], [128644], [127463, 127467], [127791]]),
   ("burundi bus bus_stop busstop bust_in_silhouette busts_in_silhouette butter butterfly",
    [[127463, 127470], [128652], [128655], [128655], [128100], [128101], [129480], [129419]]),
   ("cactus cake calendar call_me_hand call_me_hand_dark_skin_tone call_me_hand_light_skin_tone",
    [[127797], [127856], [128198], [129305], [129305, 127999], [129305, 127995]]),
   ("call_me_hand_medium-dark_skin_tone call_me_hand_medium-light_skin_tone",
    [[129305, 127998], [129305, 127996]]),
   ("call_me_hand_medium_skin_tone calling cambodia camel camera camera_with_flash cameroon",
    [[129305, 127997], [128242], [127472, 127469], [128043], [128247], [128248], [127464, 127474]]),
   ("camping canada canary_islands cancer candle candy canned_food canoe",
    [[127957], [127464, 127462], [127470, 127464], [9803], [128367], [127852], [129387], [128758]]),
   ("cape_verde capital_abcd capricorn car card_file_box card_index card_index_dividers",
    [[127464, 127483], [128288], [9809], [128663], [128451], [128199], [128450]]),
   ("caribbean_netherlands carousel_horse carp_streamer carrot castle cat cat2 cat_face",
    [[127463, 127478], [127904], [127887], [129365], [127984], [128049], [128008], [128049]]),
   ("cat_face_with_tears_of_joy cat_face_with_wry_smile cayman_islands cd central_african_republic",
    [[128569], [128572], [127472, 127486], [128191], [127464, 127467]]),
   ("ceuta_&_melilla chad chains chair chart chart_decreasing chart_increasing",
    [[127466, 127462], [127481, 127465], [9939], [129681], [128185], [128201], [128200]]),
   ("chart_increasing_with_yen chart_with_downwards_trend chart_with_upwards_trend checkered_flag",
    [[128185], [128201], [128200], [127937]]),
   ("cheese_wedge chequered_flag cherries cherry_blossom chess_pawn chestnut chicken child",
    [[129472], [127937], [127826], [127800], [9823], [127792], [128020], [129490]]),
   ("child_dark_skin_tone child_light_skin_tone child_medium-dark_skin_tone",
    [[129490, 127999], [129490, 127995], [129490, 127998]]),
   ("child_medium-light_skin_tone child_medium_skin_tone children_crossing chile china chipmunk",
    [[129490, 127996], [129490, 127997], [128696], [127464, 127473], [127464, 127475], [128063]]),
   ("chocolate_bar chopsticks christmas_island christmas_tree church cigarette cinema circled_m",
    [[127851], [129378], [127464, 127485], [127876], [9962], [128684], [127910], [9410]]),
   ("circus_tent city_sunrise city_sunset cityscape cityscape_at_dusk cl cl_button clamp clap",
    [[127914], [127751], [127750], [127961], [127750], [127377], [127377], [128476], [128079]]),
   ("clapper clapper_board clapping_hands clapping_hands_dark_skin_tone",
    [[127916], [127916], [128079], [128079, 127999]]),
   ("clapping_hands_light_skin_tone clapping_hands_medium-dark_skin_tone",
    [[128079, 127995], [128079, 127998]]),
   ("clapping_hands_medium-light_skin_tone clapping_hands_medium_skin_tone classical_building",
    [[128079, 127996], [128079, 127997], [127963]]),
   ("clinking_beer_mugs clinking_glasses clipboard clipperton_island clock1 clock10 clock1030",
    [[127867], [129346], [128203], [127464, 127477], [128336], [128345], [128357]]),
   ("clock11 clock1130 clock12 clock1230 clock130 clock2 clock230 clock3 clock330",
    [[128346], [128358], [128347], [128359], [128348], [128337], [128349], [128338], [128350]]),
   ("clock4 clock430 clock5 clock530 clock6 clock630 clock7 clock730 clock8",
    [[128339], [128351], [128340], [128352], [128341], [128353], [128342], [128354], [128343]]),
   ("clock830 clock9 clock930 clockwise_vertical_arrows closed_book closed_lock_with_key",
    [[128355], [128344], [128356], [128259], [128213], [128272]]),
   ("closed_mailbox_with_lowered_flag closed_mailbox_with_raised_flag closed_umbrella cloud",
    [[128234], [128235], [127746], [9729]]),
   ("cloud_with_lightning cloud_with_lightning_and_rain cloud_with_rain cloud_with_snow",
    [[127785], [9928], [127783], [127784]]),
   ("cloud_with_tornado clown_face club_suit clubs clutch_bag coat cocktail cocktail_glass coconut",
    [[127786], [129313], [9827], [9827], [128093], [129509], [127864], [127864], [129381]]),
   ("cocos_(keeling)_islands coffee coffin cold_face cold_sweat collision colombia comet",
    [[127464, 127464], [9749], [9904], [129398], [128560], [128165], [127464, 127476], [9732]]),
   ("comoros compass compression computer computer_disk computer_mouse confetti_ball confounded",
    [[127472, 127474], [129517], [128476], [128187], [128189], [128433], [127882], [128534]]),
   ("confounded_face confused confused_face congo_-_brazzaville congo_-_kinshasa congratulations",
    [[128534], [128533], [128533], [127464, 127468], [127464, 127465], [12951]]),
   ("construction construction_worker construction_worker_dark_skin_tone",
    [[128679], [128119], [128119, 127999]]),
   ("construction_worker_light_skin_tone construction_worker_medium-dark_skin_tone",
    [[128119, 127995], [128119, 127998]]),
   ("construction_worker_medium-light_skin_tone construction_worker_medium_skin_tone control_knobs",
    [[128119, 127996], [128119, 127997], [127899]]),
   ("convenience_store cook_islands cooked_rice cookie cooking cool cool_button cop",
    [[127978], [127464, 127472], [127834], [127850], [127859], [127378], [127378], [128110]]),
   ("copyright corn costa_rica couch_and_lamp counterclockwise_arrows_button couple",
    [[169], [127805], [127464, 127479], [128715], [128260], [128107]]),
   ("couple_with_heart couple_with_heart_man_man",
    [[128145], [128104, 8205, 10084, 65039, 8205, 128104]]),
   ("couple_with_heart_woman_man couple_with_heart_woman_woman",
    [[128105, 8205, 10084, 65039, 8205, 128104], [128105, 8205, 10084, 65039, 8205, 128105]]),
   ("couplekiss cow cow2 cow_face cowboy_hat_face crab crayon credit_card crescent_moon",
    [[128143], [128046], [128004], [128046], [129312], [129408], [128397], [128179], [127769]]),
   ("cricket cricket_bat_and_ball cricket_game croatia crocodile croissant cross_mark",
    [[129431], [127951], [127951], [127469, 127479], [128010], [129360], [10060]]),
   ("cross_mark_button crossed_fingers crossed_fingers_dark_skin_tone",
    [[10062], [129310], [129310, 127999]]),
   ("crossed_fingers_light_skin_tone crossed_fingers_medium-dark_skin_tone",
    [[129310, 127995], [129310, 127998]]),
   ("crossed_fingers_medium-light_skin_tone crossed_fingers_medium_skin_tone crossed_flags",
    [[129310, 127996], [129310, 127997], [127884]]),
   ("crossed_swords crown cry crying_cat_face crying_face crystal_ball cuba cucumber",
    [[9876], [128081], [128546], [128575], [128546], [128302], [127464, 127482], [129362]]),
   ("cup_with_straw cupcake cupid curaçao curling_stone curly-haired_man",
    [[129380], [129473], [128152], [127464, 127484], [129356], [128104, 8205, 129457]]),
   ("curly-haired_woman curly_hair curly_loop currency_exchange curry curry_rice custard customs",
    [[128105, 8205, 129457], [129457], [10160], [128177], [127835], [127835], [127854], [128707]]),
   ("cut_of_meat cyclone cyprus czechia côte_d’ivoire dagger dagger_knife",
    [[129385], [127744], [127464, 127486], [127464, 127487], [127464, 127470], [128481], [128481]]),
   ("dancer dancers dango dark_skin_tone dark_sunglasses dart dash dashing_away date",
    [[128131], [128111], [127841], [127999], [128374], [127919], [128168], [128168], [128197]]),
   ("deaf_person deciduous_tree deer delivery_truck denmark department_store derelict_house",
    [[129487], [127795], [129420], [128666], [127465, 127472], [127980], [127962]]),
   ("derelict_house_building desert desert_island desktop_computer detective",
    [[127962], [127964], [127965], [128421], [128373]]),
   ("detective_dark_skin_tone detective_light_skin_tone detective_medium-dark_skin_tone",
    [[128373, 127999], [128373, 127995], [128373, 127998]]),
   ("detective_medium-light_skin_tone detective_medium_skin_tone diamond_shape_with_a_dot_inside",
    [[128373, 127996], [128373, 127997], [128160]]),
   ("diamond_suit diamond_with_a_dot diamonds diego_garcia dim_button direct_hit disappointed",
    [[9830], [128160], [9830], [127465, 127468], [128261], [127919], [128542]]),
   ("disappointed_face disappointed_relieved diving_mask diya_lamp dizzy dizzy_face djibouti dna",
    [[128542], [128549], [129343], [129684], [128171], [128565], [127465, 127471], [129516]]),
   ("do_not_litter dog dog2 dog_face dollar dollar_banknote dolls dolphin",
    [[128687], [128054], [128021], [128054], [128181], [128181], [127886], [128044]]),
   ("dominica dominican_republic door dotted_six-pointed_star double_curly_loop",
    [[127465, 127474], [127465, 127476], [128682], [128303], [10175]]),
   ("double_exclamation_mark double_vertical_bar doughnut dove dove_of_peace down-left_arrow",
    [[8252], [9208], [127849], [128330], [128330], [8601]]),
   ("down-right_arrow down_arrow downcast_face_with_sweat downwards_button dragon dragon_face",
    [[8600], [11015], [128531], [128317], [128009], [128050]]),
   ("dress dromedary_camel drooling_face drop_of_blood droplet drum duck dumpling dvd",
    [[128087], [128042], [129316], [129656], [128167], [129345], [129414], [129375], [128192]]),
   ("e-mail e__mail eagle ear ear_dark_skin_tone ear_light_skin_tone ear_medium-dark_skin_tone",
    [[128231], [128231], [129413], [128066], [128066, 127999], [128066, 127995], [128066, 127998]]),
   ("ear_medium-light_skin_tone ear_medium_skin_tone ear_of_corn ear_of_rice ear_with_hearing_aid",
    [[128066, 127996], [128066, 127997], [127805], [127806], [129467]]),
   ("earth_africa earth_americas earth_asia ecuador egg eggplant egypt",
    [[127757], [127758], [127759], [127466, 127464], [127859], [127814], [127466, 127468]]),
   ("eight eight-pointed_star eight-spoked_asterisk eight-thirty eight_o’clock",
    [[56, 65039, 8419], [10036], [10035], [128355], [128343]]),
   ("eight_pointed_black_star eight_spoked_asterisk eject_button eject_symbol el_salvador",
    [[10036], [10035], [9167], [9167], [127480, 127483]]),
   ("electric_plug elephant eleven-thirty eleven_o’clock elf elf_dark_skin_tone",
    [[128268], [128024], [128358], [128346], [129501], [129501, 127999]]),
   ("elf_light_skin_tone elf_medium-dark_skin_tone elf_medium-light_skin_tone elf_medium_skin_tone",
    [[129501, 127995], [129501, 127998], [129501, 127996], [129501, 127997]]),
   ("email emoji_modifier_fitzpatrick_type__1__2 emoji_modifier_fitzpatrick_type__3",
    [[9993], [127995], [127996]]),
   ("emoji_modifier_fitzpatrick_type__4 emoji_modifier_fitzpatrick_type__5",
    [[127997], [127998]]),
   ("emoji_modifier_fitzpatrick_type__6 end end_arrow england",
    [[127999], [128282], [128282], [127988, 917607, 917602, 917605, 917614, 917607, 917631]]),
   ("envelope envelope_with_arrow equatorial_guinea eritrea estonia ethiopia",
    [[9993], [128233], [127468, 127478], [127466, 127479], [127466, 127466], [127466, 127481]]),
   ("euro euro_banknote european_castle european_post_office european_union evergreen_tree ewe",
    [[128182], [128182], [127984], [127972], [127466, 127482], [127794], [128017]]),
   ("exclamation exclamation_mark exclamation_question_mark exploding_head expressionless",
    [[10071], [10071], [8265], [129327], [128529]]),
   ("expressionless_face eye eye_in_speech_bubble eyeglasses eyes face_blowing_a_kiss",
    [[128529], [128065], [128065, 65039, 8205, 128488, 65039], [128083], [128064], [128536]]),
   ("face_savoring_food face_screaming_in_fear face_vomiting face_with_hand_over_mouth",
    [[128523], [128561], [129326], [129325]]),
   ("face_with_head-bandage face_with_head__bandage face_with_medical_mask face_with_monocle",
    [[129301], [129301], [128567], [129488]]),
   ("face_with_open_mouth face_with_raised_eyebrow face_with_rolling_eyes",
    [[128558], [129320], [128580]]),
   ("face_with_steam_from_nose face_with_symbols_on_mouth face_with_tears_of_joy",
    [[128548], [129324], [128514]]),
   ("face_with_thermometer face_with_tongue face_without_mouth facepunch factory fairy",
    [[129298], [128539], [128566], [128074], [127981], [129498]]),
   ("fairy_dark_skin_tone fairy_light_skin_tone fairy_medium-dark_skin_tone",
    [[129498, 127999], [129498, 127995], [129498, 127998]]),
   ("fairy_medium-light_skin_tone fairy_medium_skin_tone falafel falkland_islands fallen_leaf",
    [[129498, 127996], [129498, 127997], [129478], [127467, 127472], [127810]]),
   ("family family_man_boy family_man_boy_boy",
    [[128106], [128104, 8205, 128102], [128104, 8205, 128102, 8205, 128102]]),
   ("family_man_girl family_man_girl_boy",
    [[128104, 8205, 128103], [128104, 8205, 128103, 8205, 128102]]),
   ("family_man_girl_girl family_man_man_boy",
    [[128104, 8205, 128103, 8205, 128103], [128104, 8205, 128104, 8205, 128102]]),
   ("family_man_man_boy_boy family_man_man_girl",
    [[128104, 8205, 128104, 8205, 128102, 8205, 128102], [128104, 8205, 128104, 8205, 128103]]),
   ("family_man_man_girl_boy",
    [[128104, 8205, 128104, 8205, 128103, 8205, 128102]]),
   ("family_man_man_girl_girl family_man_woman_boy",
    [[128104, 8205, 128104, 8205, 128103, 8205, 128103], [128104, 8205, 128105, 8205, 128102]]),
   ("family_man_woman_boy_boy family_man_woman_girl",
    [[128104, 8205, 128105, 8205, 128102, 8205, 128102], [128104, 8205, 128105, 8205, 128103]]),
   ("family_man_woman_girl_boy",
    [[128104, 8205, 128105, 8205, 128103, 8205, 128102]]),
   ("family_man_woman_girl_girl family_woman_boy",
    [[128104, 8205, 128105, 8205, 128103, 8205, 128103], [128105, 8205, 128102]]),
   ("family_woman_boy_boy family_woman_girl",
    [[128105, 8205, 128102, 8205, 128102], [128105, 8205, 128103]]),
   ("family_woman_girl_boy family_woman_girl_girl",
    [[128105, 8205, 128103, 8205, 128102], [128105, 8205, 128103, 8205, 128103]]),
   ("family_woman_woman_boy family_woman_woman_boy_boy",
    [[128105, 8205, 128105, 8205, 128102], [128105, 8205, 128105, 8205, 128102, 8205, 128102]]),
   ("family_woman_woman_girl family_woman_woman_girl_boy",
    [[128105, 8205, 128105, 8205, 128103], [128105, 8205, 128105, 8205, 128103, 8205, 128102]]),
   ("family_woman_woman_girl_girl faroe_islands fast-forward_button fast_down_button fast_forward",
    [[128105, 8205, 128105, 8205, 128103, 8205, 128103], [127467, 127476], [9193], [9196], [9193]]),
   ("fast_reverse_button fast_up_button fax fax_machine fearful fearful_face feet female_sign",
    [[9194], [9195], [128224], [128224], [128552], [128552], [128062], [9792]]),
   ("ferris_wheel ferry field_hockey field_hockey_stick_and_ball fiji file_cabinet file_folder",
    [[127905], [9972], [127953], [127953], [127467, 127471], [128452], [128193]]),
   ("film_frames film_projector finland fire fire_engine fire_extinguisher firecracker fireworks",
    [[127902], [128253], [127467, 127470], [128293], [128658], [129519], [129512], [127878]]),
   ("first_quarter_moon first_quarter_moon_face first_quarter_moon_with_face fish fish_cake",
    [[127763], [127771], [127771], [128031], [127845]]),
   ("fish_cake_with_swirl fishing_pole fishing_pole_and_fish fist five five-thirty five_o’clock",
    [[127845], [127907], [127907], [9994], [53, 65039, 8419], [128352], [128340]]),
   ("flag_for_afghanistan flag_for_albania flag_for_algeria flag_for_american_samoa",
    [[127462, 127467], [127462, 127473], [127465, 127487], [127462, 127480]]),
   ("flag_for_andorra flag_for_angola flag_for_anguilla flag_for_antarctica",
    [[127462, 127465], [127462, 127476], [127462, 127470], [127462, 127478]]),
   ("flag_for_antigua_&_barbuda flag_for_argentina flag_for_armenia flag_for_aruba",
    [[127462, 127468], [127462, 127479], [127462, 127474], [127462, 127484]]),
   ("flag_for_ascension_island flag_for_australia flag_for_austria flag_for_azerbaijan",
    [[127462, 127464], [127462, 127482], [127462, 127481], [127462, 127487]]),
   ("flag_for_bahamas flag_for_bahrain flag_for_bangladesh flag_for_barbados flag_for_belarus",
    [[127463, 127480], [127463, 127469], [127463, 127465], [127463, 127463], [127463, 127486]]),
   ("flag_for_belgium flag_for_belize flag_for_benin flag_for_bermuda flag_for_bhutan",
    [[127463, 127466], [127463, 127487], [127463, 127471], [127463, 127474], [127463, 127481]]),
   ("flag_for_bolivia flag_for_bosnia_&_herzegovina flag_for_botswana flag_for_bouvet_island",
    [[127463, 127476], [127463, 127462], [127463, 127484], [127463, 127483]]),
   ("flag_for_brazil flag_for_british_indian_ocean_territory flag_for_british_virgin_islands",
    [[127463, 127479], [127470, 127476], [127483, 127468]]),
   ("flag_for_brunei flag_for_bulgaria flag_for_burkina_faso flag_for_burundi flag_for_cambodia",
    [[127463, 127475], [127463, 127468], [127463, 127467], [127463, 127470], [127472, 127469]]),
   ("flag_for_cameroon flag_for_canada flag_for_canary_islands flag_for_cape_verde",
    [[127464, 127474], [127464, 127462], [127470, 127464], [127464, 127483]]),
   ("flag_for_caribbean_netherlands flag_for_cayman_islands flag_for_central_african_republic",
    [[127463, 127478], [127472, 127486], [127464, 127467]]),
   ("flag_for_ceuta_&_melilla flag_for_chad flag_for_chile flag_for_china",
    [[127466, 127462], [127481, 127465], [127464, 127473], [127464, 127475]]),
   ("flag_for_christmas_island flag_for_clipperton_island flag_for_cocos__islands",
    [[127464, 127485], [127464, 127477], [127464, 127464]]),
   ("flag_for_colombia flag_for_comoros flag_for_congo____brazzaville flag_for_congo____kinshasa",
    [[127464, 127476], [127472, 127474], [127464, 127468], [127464, 127465]]),
   ("flag_for_cook_islands flag_for_costa_rica flag_for_croatia flag_for_cuba flag_for_curaçao",
    [[127464, 127472], [127464, 127479], [127469, 127479], [127464, 127482], [127464, 127484]]),
   ("flag_for_cyprus flag_for_czech_republic flag_for_côte_d’ivoire flag_for_denmark",
    [[127464, 127486], [127464, 127487], [127464, 127470], [127465, 127472]]),
   ("flag_for_diego_garcia flag_for_djibouti flag_for_dominica flag_for_dominican_republic",
    [[127465, 127468], [127465, 127471], [127465, 127474], [127465, 127476]]),
   ("flag_for_ecuador flag_for_egypt flag_for_el_salvador flag_for_equatorial_guinea",
    [[127466, 127464], [127466, 127468], [127480, 127483], [127468, 127478]]),
   ("flag_for_eritrea flag_for_estonia flag_for_ethiopia flag_for_european_union",
    [[127466, 127479], [127466, 127466], [127466, 127481], [127466, 127482]]),
   ("flag_for_falkland_islands flag_for_faroe_islands flag_for_fiji flag_for_finland",
    [[127467, 127472], [127467, 127476], [127467, 127471], [127467, 127470]]),
   ("flag_for_france flag_for_french_guiana flag_for_french_polynesia",
    [[127467, 127479], [127468, 127467], [127477, 127467]]),
   ("flag_for_french_southern_territories flag_for_gabon flag_for_gambia flag_for_georgia",
    [[127481, 127467], [127468, 127462], [127468, 127474], [127468, 127466]]),
   ("flag_for_germany flag_for_ghana flag_for_gibraltar flag_for_greece flag_for_greenland",
    [[127465, 127466], [127468, 127469], [127468, 127470], [127468, 127479], [127468, 127473]]),
   ("flag_for_grenada flag_for_guadeloupe flag_for_guam flag_for_guatemala flag_for_guernsey",
    [[127468, 127465], [127468, 127477], [127468, 127482], [127468, 127481], [127468, 127468]]),
   ("flag_for_guinea flag_for_guinea__bissau flag_for_guyana flag_for_haiti",
    [[127468, 127475], [127468, 127484], [127468, 127486], [127469, 127481]]),
   ("flag_for_heard_&_mcdonald_islands flag_for_honduras flag_for_hong_kong flag_for_hungary",
    [[127469, 127474], [127469, 127475], [127469, 127472], [127469, 127482]]),
   ("flag_for_iceland flag_for_india flag_for_indonesia flag_for_iran flag_for_iraq",
    [[127470, 127480], [127470, 127475], [127470, 127465], [127470, 127479], [127470, 127478]]),
   ("flag_for_ireland flag_for_isle_of_man flag_for_israel flag_for_italy flag_for_jamaica",
    [[127470, 127466], [127470, 127474], [127470, 127473], [127470, 127481], [127471, 127474]]),
   ("flag_for_japan flag_for_jersey flag_for_jordan flag_for_kazakhstan flag_for_kenya",
    [[127471, 127477], [127471, 127466], [127471, 127476], [127472, 127487], [127472, 127466]]),
   ("flag_for_kiribati flag_for_kosovo flag_for_kuwait flag_for_kyrgyzstan flag_for_laos",
    [[127472, 127470], [127485, 127472], [127472, 127484], [127472, 127468], [127473, 127462]]),
   ("flag_for_latvia flag_for_lebanon flag_for_lesotho flag_for_liberia flag_for_libya",
    [[127473, 127483], [127473, 127463], [127473, 127480], [127473, 127479], [127473, 127486]]),
   ("flag_for_liechtenstein flag_for_lithuania flag_for_luxembourg flag_for_macau",
    [[127473, 127470], [127473, 127481], [127473, 127482], [127474, 127476]]),
   ("flag_for_macedonia flag_for_madagascar flag_for_malawi flag_for_malaysia flag_for_maldives",
    [[127474, 127472], [127474, 127468], [127474, 127484], [127474, 127486], [127474, 127483]]),
   ("flag_for_mali flag_for_malta flag_for_marshall_islands flag_for_martinique",
    [[127474, 127473], [127474, 127481], [127474, 127469], [127474, 127478]]),
   ("flag_for_mauritania flag_for_mauritius flag_for_mayotte flag_for_mexico flag_for_micronesia",
    [[127474, 127479], [127474, 127482], [127486, 127481], [127474, 127485], [127467, 127474]]),
   ("flag_for_moldova flag_for_monaco flag_for_mongolia flag_for_montenegro flag_for_montserrat",
    [[127474, 127465], [127474, 127464], [127474, 127475], [127474, 127466], [127474, 127480]]),
   ("flag_for_morocco flag_for_mozambique flag_for_myanmar flag_for_namibia flag_for_nauru",
    [[127474, 127462], [127474, 127487], [127474, 127474], [127475, 127462], [127475, 127479]]),
   ("flag_for_nepal flag_for_netherlands flag_for_new_caledonia flag_for_new_zealand",
    [[127475, 127477], [127475, 127473], [127475, 127464], [127475, 127487]]),
   ("flag_for_nicaragua flag_for_niger flag_for_nigeria flag_for_niue flag_for_norfolk_island",
    [[127475, 127470], [127475, 127466], [127475, 127468], [127475, 127482], [127475, 127467]]),
   ("flag_for_north_korea flag_for_northern_mariana_islands flag_for_norway flag_for_oman",
    [[127472, 127477], [127474, 127477], [127475, 127476], [127476, 127474]]),
   ("flag_for_pakistan flag_for_palau flag_for_palestinian_territories flag_for_panama",
    [[127477, 127472], [127477, 127484], [127477, 127480], [127477, 127462]]),
   ("flag_for_papua_new_guinea flag_for_paraguay flag_for_peru flag_for_philippines",
    [[127477, 127468], [127477, 127486], [127477, 127466], [127477, 127469]]),
   ("flag_for_pitcairn_islands flag_for_poland flag_for_portugal flag_for_puerto_rico",
    [[127477, 127475], [127477, 127473], [127477, 127481], [127477, 127479]]),
   ("flag_for_qatar flag_for_romania flag_for_russia flag_for_rwanda flag_for_réunion",
    [[127478, 127462], [127479, 127476], [127479, 127482], [127479, 127484], [127479, 127466]]),
   ("flag_for_samoa flag_for_san_marino flag_for_saudi_arabia flag_for_senegal flag_for_serbia",
    [[127484, 127480], [127480, 127474], [127480, 127462], [127480, 127475], [127479, 127480]]),
   ("flag_for_seychelles flag_for_sierra_leone flag_for_singapore flag_for_sint_maarten",
    [[127480, 127464], [127480, 127473], [127480, 127468], [127480, 127485]]),
   ("flag_for_slovakia flag_for_slovenia flag_for_solomon_islands flag_for_somalia",
    [[127480, 127472], [127480, 127470], [127480, 127463], [127480, 127476]]),
   ("flag_for_south_africa flag_for_south_georgia_&_south_sandwich_islands flag_for_south_korea",
    [[127487, 127462], [127468, 127480], [127472, 127479]]),
   ("flag_for_south_sudan flag_for_spain flag_for_sri_lanka flag_for_st._barthélemy",
    [[127480, 127480], [127466, 127480], [127473, 127472], [127463, 127473]]),
   ("flag_for_st._helena flag_for_st._kitts_&_nevis flag_for_st._lucia flag_for_st._martin",
    [[127480, 127469], [127472, 127475], [127473, 127464], [127474, 127467]]),
   ("flag_for_st._pierre_&_miquelon flag_for_st._vincent_&_grenadines flag_for_sudan",
    [[127477, 127474], [127483, 127464], [127480, 127465]]),
   ("flag_for_suriname flag_for_svalbard_&_jan_mayen flag_for_swaziland flag_for_sweden",
    [[127480, 127479], [127480, 127471], [127480, 127487], [127480, 127466]]),
   ("flag_for_switzerland flag_for_syria flag_for_são_tomé_&_príncipe flag_for_taiwan",
    [[127464, 127469], [127480, 127486], [127480, 127481], [127481, 127484]]),
   ("flag_for_tajikistan flag_for_tanzania flag_for_thailand flag_for_timor__leste flag_for_togo",
    [[127481, 127471], [127481, 127487], [127481, 127469], [127481, 127473], [127481, 127468]]),
   ("flag_for_tokelau flag_for_tonga flag_for_trinidad_&_tobago flag_for_tristan_da_cunha",
    [[127481, 127472], [127481, 127476], [127481, 127481], [127481, 127462]]),
   ("flag_for_tunisia flag_for_turkey flag_for_turkmenistan flag_for_turks_&_caicos_islands",
    [[127481, 127475], [127481, 127479], [127481, 127474], [127481, 127464]]),
   ("flag_for_tuvalu flag_for_u.s._outlying_islands flag_for_u.s._virgin_islands flag_for_uganda",
    [[127481, 127483], [127482, 127474], [127483, 127470], [127482, 127468]]),
   ("flag_for_ukraine flag_for_united_arab_emirates flag_for_united_kingdom flag_for_united_states",
    [[127482, 127462], [127462, 127466], [127468, 127463], [127482, 127480]]),
   ("flag_for_uruguay flag_for_uzbekistan flag_for_vanuatu flag_for_vatican_city",
    [[127482, 127486], [127482, 127487], [127483, 127482], [127483, 127462]]),
   ("flag_for_venezuela flag_for_vietnam flag_for_wallis_&_futuna flag_for_western_sahara",
    [[127483, 127466], [127483, 127475], [127484, 127467], [127466, 127469]]),
   ("flag_for_yemen flag_for_zambia flag_for_zimbabwe flag_for_åland_islands flag_in_hole flags",
    [[127486, 127466], [127487, 127474], [127487, 127484], [127462, 127485], [9971], [127887]]),
   ("flamingo flashlight flat_shoe fleur-de-lis fleur__de__lis flexed_biceps",
    [[129449], [128294], [129407], [9884], [9884], [128170]]),
   ("flexed_biceps_dark_skin_tone flexed_biceps_light_skin_tone",
    [[128170, 127999], [128170, 127995]]),
   ("flexed_biceps_medium-dark_skin_tone flexed_biceps_medium-light_skin_tone",
    [[128170, 127998], [128170, 127996]]),
   ("flexed_biceps_medium_skin_tone flipper floppy_disk flower_playing_cards flushed flushed_face",
    [[128170, 127997], [128044], [128190], [127924], [128563], [128563]]),
   ("flying_disc flying_saucer fog foggy folded_hands folded_hands_dark_skin_tone",
    [[129359], [128760], [127787], [127745], [128591], [128591, 127999]]),
   ("folded_hands_light_skin_tone folded_hands_medium-dark_skin_tone",
    [[128591, 127995], [128591, 127998]]),
   ("folded_hands_medium-light_skin_tone folded_hands_medium_skin_tone foot football footprints",
    [[128591, 127996], [128591, 127997], [129462], [127944], [128099]]),
   ("fork_and_knife fork_and_knife_with_plate fortune_cookie fountain fountain_pen four",
    [[127860], [127869], [129376], [9970], [128395], [52, 65039, 8419]]),
   ("four-thirty four_leaf_clover four_o’clock fox_face frame_with_picture framed_picture france",
    [[128351], [127808], [128339], [129418], [128444], [128444], [127467, 127479]]),
   ("free free_button french_fries french_guiana french_polynesia french_southern_territories",
    [[127379], [127379], [127839], [127468, 127467], [127477, 127467], [127481, 127467]]),
   ("fried_shrimp fries frog frog_face front-facing_baby_chick frowning frowning_face",
    [[127844], [127839], [128056], [128056], [128037], [128550], [9785]]),
   ("frowning_face_with_open_mouth fuel_pump fuelpump full_moon full_moon_face full_moon_with_face",
    [[128550], [9981], [9981], [127765], [127773], [127773]]),
   ("funeral_urn gabon gambia game_die garlic gear gem gem_stone",
    [[9905], [127468, 127462], [127468, 127474], [127922], [129476], [9881], [128142], [128142]]),
   ("gemini genie georgia germany ghana ghost",
    [[9802], [129502], [127468, 127466], [127465, 127466], [127468, 127469], [128123]]),
   ("gibraltar gift gift_heart giraffe girl girl_dark_skin_tone girl_light_skin_tone",
    [[127468, 127470], [127873], [128157], [129426], [128103], [128103, 127999], [128103, 127995]]),
   ("girl_medium-dark_skin_tone girl_medium-light_skin_tone girl_medium_skin_tone glass_of_milk",
    [[128103, 127998], [128103, 127996], [128103, 127997], [129371]]),
   ("glasses globe_showing_americas globe_showing_asia-australia globe_showing_europe-africa",
    [[128083], [127758], [127759], [127757]]),
   ("globe_with_meridians gloves glowing_star goal_net goat goblin goggles golf golfer",
    [[127760], [129508], [127775], [129349], [128016], [128122], [129405], [9971], [127948]]),
   ("gorilla graduation_cap grapes greece green_apple green_book green_circle green_heart",
    [[129421], [127891], [127815], [127468, 127479], [127823], [128215], [128994], [128154]]),
   ("green_salad green_square greenland grenada grey_exclamation grey_question grimacing",
    [[129367], [129001], [127468, 127473], [127468, 127465], [10069], [10068], [128556]]),
   ("grimacing_face grin grinning grinning_cat_face grinning_cat_face_with_smiling_eyes",
    [[128556], [128513], [128512], [128570], [128568]]),
   ("grinning_face grinning_face_with_big_eyes grinning_face_with_smiling_eyes",
    [[128512], [128515], [128516]]),
   ("grinning_face_with_sweat grinning_squinting_face growing_heart guadeloupe guam guard",
    [[128517], [128518], [128151], [127468, 127477], [127468, 127482], [128130]]),
   ("guard_dark_skin_tone guard_light_skin_tone guard_medium-dark_skin_tone",
    [[128130, 127999], [128130, 127995], [128130, 127998]]),
   ("guard_medium-light_skin_tone guard_medium_skin_tone guardsman guatemala guernsey guide_dog",
    [[128130, 127996], [128130, 127997], [128130], [127468, 127481], [127468, 127468], [129454]]),
   ("guinea guinea-bissau guitar gun guyana haircut",
    [[127468, 127475], [127468, 127484], [127928], [128299], [127468, 127486], [128135]]),
   ("haiti hamburger hammer hammer_and_pick hammer_and_wrench hamster hamster_face hand",
    [[127469, 127481], [127828], [128296], [9874], [128736], [128057], [128057], [9995]]),
   ("hand_with_fingers_splayed hand_with_fingers_splayed_dark_skin_tone",
    [[128400], [128400, 127999]]),
   ("hand_with_fingers_splayed_light_skin_tone hand_with_fingers_splayed_medium-dark_skin_tone",
    [[128400, 127995], [128400, 127998]]),
   ("hand_with_fingers_splayed_medium-light_skin_tone hand_with_fingers_splayed_medium_skin_tone",
    [[128400, 127996], [128400, 127997]]),
   ("handbag handshake hankey hatched_chick hatching_chick headphone headphones",
    [[128092], [129309], [128169], [128037], [128035], [127911], [127911]]),
   ("hear-no-evil_monkey hear_no_evil heard_&_mcdonald_islands heart heart_decoration heart_eyes",
    [[128585], [128585], [127469, 127474], [10084], [128159], [128525]]),
   ("heart_eyes_cat heart_suit heart_with_arrow heart_with_ribbon heartbeat heartpulse hearts",
    [[128571], [9829], [128152], [128157], [128147], [128151], [9829]]),
   ("heavy_check_mark heavy_division_sign heavy_dollar_sign heavy_exclamation_mark",
    [[10004], [10135], [128178], [10071]]),
   ("heavy_heart_exclamation heavy_heart_exclamation_mark_ornament heavy_large_circle",
    [[10083], [10083], [11093]]),
   ("heavy_minus_sign heavy_multiplication_x heavy_plus_sign hedgehog helicopter helm_symbol",
    [[10134], [10006], [10133], [129428], [128641], [9096]]),
   ("helmet_with_white_cross herb hibiscus high-heeled_shoe high-speed_train high_brightness",
    [[9937], [127807], [127802], [128096], [128644], [128262]]),
   ("high_heel high_voltage hiking_boot hindu_temple hippopotamus hocho hole honduras",
    [[128096], [9889], [129406], [128725], [129435], [128298], [128371], [127469, 127475]]),
   ("honey_pot honeybee hong_kong_sar_china horizontal_traffic_light horse horse_face horse_racing",
    [[127855], [128029], [127469, 127472], [128677], [128052], [128052], [127943]]),
   ("horse_racing_dark_skin_tone horse_racing_light_skin_tone horse_racing_medium-dark_skin_tone",
    [[127943, 127999], [127943, 127995], [127943, 127998]]),
   ("horse_racing_medium-light_skin_tone horse_racing_medium_skin_tone hospital hot_beverage",
    [[127943, 127996], [127943, 127997], [127973], [9749]]),
   ("hot_dog hot_face hot_pepper hot_springs hotel hotsprings hourglass hourglass_done",
    [[127789], [129397], [127798], [9832], [127976], [9832], [8987], [8987]]),
   ("hourglass_flowing_sand hourglass_not_done house house_buildings house_with_garden houses",
    [[9203], [9203], [127968], [127960], [127969], [127960]]),
   ("hugging_face hundred_points hungary hushed hushed_face ice ice_cream ice_hockey",
    [[129303], [128175], [127469, 127482], [128559], [128559], [129482], [127848], [127954]]),
   ("ice_hockey_stick_and_puck ice_skate icecream iceland id id_button ideograph_advantage imp",
    [[127954], [9976], [127846], [127470, 127480], [127380], [127380], [127568], [128127]]),
   ("inbox_tray incoming_envelope index_pointing_up index_pointing_up_dark_skin_tone",
    [[128229], [128232], [9757], [9757, 127999]]),
   ("index_pointing_up_light_skin_tone index_pointing_up_medium-dark_skin_tone",
    [[9757, 127995], [9757, 127998]]),
   ("index_pointing_up_medium-light_skin_tone index_pointing_up_medium_skin_tone india indonesia",
    [[9757, 127996], [9757, 127997], [127470, 127475], [127470, 127465]]),
   ("infinity information information_desk_person information_source innocent input_latin_letters",
    [[9854], [8505], [128129], [8505], [128519], [128292]]),
   ("input_latin_lowercase input_latin_uppercase input_numbers input_symbols interrobang iphone",
    [[128289], [128288], [128290], [128291], [8265], [128241]]),
   ("iran iraq ireland isle_of_man israel",
    [[127470, 127479], [127470, 127478], [127470, 127466], [127470, 127474], [127470, 127473]]),
   ("italy izakaya_lantern jack-o-lantern jack_o_lantern jamaica japan japanese_acceptable_button",
    [[127470, 127481], [127982], [127875], [127875], [127471, 127474], [128510], [127569]]),
   ("japanese_application_button japanese_bargain_button japanese_castle",
    [[127544], [127568], [127983]]),
   ("japanese_congratulations_button japanese_discount_button japanese_dolls",
    [[12951], [127545], [127886]]),
   ("japanese_free_of_charge_button japanese_goblin japanese_here_button",
    [[127514], [128122], [127489]]),
   ("japanese_monthly_amount_button japanese_no_vacancy_button japanese_not_free_of_charge_button",
    [[127543], [127541], [127542]]),
   ("japanese_ogre japanese_open_for_business_button japanese_passing_grade_button",
    [[128121], [127546], [127540]]),
   ("japanese_post_office japanese_prohibited_button japanese_reserved_button",
    [[127971], [127538], [127535]]),
   ("japanese_secret_button japanese_service_charge_button japanese_symbol_for_beginner",
    [[12953], [127490], [128304]]),
   ("japanese_vacancy_button jeans jersey jigsaw joker jordan joy",
    [[127539], [128086], [127471, 127466], [129513], [127183], [127471, 127476], [128514]]),
   ("joy_cat joystick kaaba kangaroo kazakhstan kenya key keyboard",
    [[128569], [128377], [128331], [129432], [127472, 127487], [127472, 127466], [128273], [9000]]),
   ("keycap_# keycap_* keycap_0 keycap_1 keycap_10",
    [[35, 65039, 8419], [42, 65039, 8419], [48, 65039, 8419], [49, 65039, 8419], [128287]]),
   ("keycap_2 keycap_3 keycap_4 keycap_5",
    [[50, 65039, 8419], [51, 65039, 8419], [52, 65039, 8419], [53, 65039, 8419]]),
   ("keycap_6 keycap_7 keycap_8 keycap_9 keycap_asterisk",
    [[54, 65039, 8419], [55, 65039, 8419], [56, 65039, 8419], [57, 65039, 8419], [42, 8419]]),
   ("keycap_digit_eight keycap_digit_five keycap_digit_four keycap_digit_nine keycap_digit_one",
    [[56, 8419], [53, 8419], [52, 8419], [57, 8419], [49, 8419]]),
   ("keycap_digit_seven keycap_digit_six keycap_digit_three keycap_digit_two keycap_digit_zero",
    [[55, 8419], [54, 8419], [51, 8419], [50, 8419], [48, 8419]]),
   ("keycap_number_sign kick_scooter kimono kiribati kiss",
    [[35, 8419], [128756], [128088], [127472, 127470], [128139]]),
   ("kiss_man_man kiss_mark",
    [[128104, 8205, 10084, 65039, 8205, 128139, 8205, 128104], [128139]]),
   ("kiss_woman_man",
    [[128105, 8205, 10084, 65039, 8205, 128139, 8205, 128104]]),
   ("kiss_woman_woman kissing kissing_cat kissing_cat_face",
    [[128105, 8205, 10084, 65039, 8205, 128139, 8205, 128105], [128535], [128573], [128573]]),
   ("kissing_closed_eyes kissing_face kissing_face_with_closed_eyes kissing_face_with_smiling_eyes",
    [[128538], [128535], [128538], [128537]]),
   ("kissing_heart kissing_smiling_eyes kitchen_knife kite kiwi_fruit knife koala koko",
    [[128536], [128537], [128298], [129665], [129373], [128298], [128040], [127489]]),
   ("kosovo kuwait kyrgyzstan lab_coat label lacrosse lady_beetle",
    [[127485, 127472], [127472, 127484], [127472, 127468], [129404], [127991], [129357], [128030]]),
   ("lantern laos laptop_computer large_blue_circle large_blue_diamond large_orange_diamond",
    [[127982], [127473, 127462], [128187], [128309], [128311], [128310]]),
   ("last_quarter_moon last_quarter_moon_face last_quarter_moon_with_face last_track_button",
    [[127767], [127772], [127772], [9198]]),
   ("latin_cross latvia laughing leaf_fluttering_in_wind leafy_green leaves lebanon",
    [[10013], [127473, 127483], [128518], [127811], [129388], [127811], [127473, 127463]]),
   ("ledger left-facing_fist left-facing_fist_dark_skin_tone left-facing_fist_light_skin_tone",
    [[128210], [129307], [129307, 127999], [129307, 127995]]),
   ("left-facing_fist_medium-dark_skin_tone left-facing_fist_medium-light_skin_tone",
    [[129307, 127998], [129307, 127996]]),
   ("left-facing_fist_medium_skin_tone left-right_arrow left_arrow left_arrow_curving_right",
    [[129307, 127997], [8596], [11013], [8618]]),
   ("left_luggage left_right_arrow left_speech_bubble leftwards_arrow_with_hook leg lemon leo",
    [[128709], [8596], [128488], [8617], [129461], [127819], [9804]]),
   ("leopard lesotho level_slider liberia libra libya",
    [[128006], [127473, 127480], [127898], [127473, 127479], [9806], [127473, 127486]]),
   ("liechtenstein light_bulb light_rail light_skin_tone link linked_paperclips lion_face lips",
    [[127473, 127470], [128161], [128648], [127995], [128279], [128391], [129409], [128068]]),
   ("lipstick lithuania litter_in_bin_sign lizard llama lobster lock lock_with_ink_pen",
    [[128132], [127473, 127481], [128686], [129422], [129433], [129438], [128274], [128271]]),
   ("locked locked_with_key locked_with_pen locomotive lollipop loop lotion_bottle loud_sound",
    [[128274], [128272], [128271], [128642], [127853], [10175], [129524], [128266]]),
   ("loudly_crying_face loudspeaker love-you_gesture love-you_gesture_dark_skin_tone",
    [[128557], [128226], [129311], [129311, 127999]]),
   ("love-you_gesture_light_skin_tone love-you_gesture_medium-dark_skin_tone",
    [[129311, 127995], [129311, 127998]]),
   ("love-you_gesture_medium-light_skin_tone love-you_gesture_medium_skin_tone love_hotel",
    [[129311, 127996], [129311, 127997], [127977]]),
   ("love_letter low_brightness lower_left_ballpoint_pen lower_left_crayon lower_left_fountain_pen",
    [[128140], [128261], [128394], [128397], [128395]]),
   ("lower_left_paintbrush luggage luxembourg lying_face m macau_sar_china macedonia",
    [[128396], [129523], [127473, 127482], [129317], [9410], [127474, 127476], [127474, 127472]]),
   ("madagascar mag mag_right mage mage_dark_skin_tone mage_light_skin_tone",
    [[127474, 127468], [128269], [128270], [129497], [129497, 127999], [129497, 127995]]),
   ("mage_medium-dark_skin_tone mage_medium-light_skin_tone mage_medium_skin_tone magnet",
    [[129497, 127998], [129497, 127996], [129497, 127997], [129522]]),
   ("magnifying_glass_tilted_left magnifying_glass_tilted_right mahjong mahjong_red_dragon mailbox",
    [[128269], [128270], [126980], [126980], [128235]]),
   ("mailbox_closed mailbox_with_mail mailbox_with_no_mail malawi malaysia maldives male_sign",
    [[128234], [128236], [128237], [127474, 127484], [127474, 127486], [127474, 127483], [9794]]),
   ("mali malta",
    [[127474, 127473], [127474, 127481]])]

end CallSites.Text.Emoji
