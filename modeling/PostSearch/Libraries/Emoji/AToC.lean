/-! # Pictures by name, A to C

The names up to the letter `c`, and those that begin with a sign or a digit. Every name is
followed by the code points of its picture. -/

namespace PostSearch.Emoji

def rowsAToC : List String := [
  "+1 1F44D -1 1F44E 100 1F4AF 1234 1F522 1st_place_medal 1F947 2nd_place_medal 1F948",
  "3rd_place_medal 1F949 8ball 1F3B1 __1 1F44E a 1F170 a_button_(blood_type) 1F170 ab 1F18E",
  "ab_button_(blood_type) 1F18E abacus 1F9EE abc 1F524 abcd 1F521 accept 1F251",
  "adhesive_bandage 1FA79 admission_tickets 1F39F adult 1F9D1 adult_dark_skin_tone 1F9D1-1F3FF",
  "adult_light_skin_tone 1F9D1-1F3FB adult_medium-dark_skin_tone 1F9D1-1F3FE",
  "adult_medium-light_skin_tone 1F9D1-1F3FC adult_medium_skin_tone 1F9D1-1F3FD",
  "aerial_tramway 1F6A1 afghanistan 1F1E6-1F1EB airplane 2708 airplane_arrival 1F6EC",
  "airplane_arriving 1F6EC airplane_departure 1F6EB alarm_clock 23F0 albania 1F1E6-1F1F1",
  "alembic 2697 algeria 1F1E9-1F1FF alien 1F47D alien_monster 1F47E ambulance 1F691",
  "american_football 1F3C8 american_samoa 1F1E6-1F1F8 amphora 1F3FA anchor 2693",
  "andorra 1F1E6-1F1E9 angel 1F47C anger 1F4A2 anger_symbol 1F4A2 angola 1F1E6-1F1F4 angry 1F620",
  "angry_face 1F620 angry_face_with_horns 1F47F anguilla 1F1E6-1F1EE anguished 1F627",
  "anguished_face 1F627 ant 1F41C antarctica 1F1E6-1F1F6 antenna_bars 1F4F6",
  "antigua_&_barbuda 1F1E6-1F1EC anxious_face_with_sweat 1F630 apple 1F34E aquarius 2652",
  "argentina 1F1E6-1F1F7 aries 2648 armenia 1F1E6-1F1F2 arrow_backward 25C0 arrow_double_down 23EC",
  "arrow_double_up 23EB arrow_down 2B07 arrow_down_small 1F53D arrow_forward 25B6",
  "arrow_heading_down 2935 arrow_heading_up 2934 arrow_left 2B05 arrow_lower_left 2199",
  "arrow_lower_right 2198 arrow_right 27A1 arrow_right_hook 21AA arrow_up 2B06 arrow_up_down 2195",
  "arrow_up_small 1F53C arrow_upper_left 2196 arrow_upper_right 2197 arrows_clockwise 1F503",
  "arrows_counterclockwise 1F504 art 1F3A8 articulated_lorry 1F69B artist_palette 1F3A8",
  "aruba 1F1E6-1F1FC ascension_island 1F1E6-1F1E8 astonished 1F632 astonished_face 1F632",
  "athletic_shoe 1F45F atm 1F3E7 atm_sign 1F3E7 atom_symbol 269B australia 1F1E6-1F1FA",
  "austria 1F1E6-1F1F9 auto_rickshaw 1F6FA automobile 1F697 avocado 1F951 axe 1FA93",
  "azerbaijan 1F1E6-1F1FF b 1F171 b_button_(blood_type) 1F171 baby 1F476 baby_angel 1F47C",
  "baby_angel_dark_skin_tone 1F47C-1F3FF baby_angel_light_skin_tone 1F47C-1F3FB",
  "baby_angel_medium-dark_skin_tone 1F47C-1F3FE baby_angel_medium-light_skin_tone 1F47C-1F3FC",
  "baby_angel_medium_skin_tone 1F47C-1F3FD baby_bottle 1F37C baby_chick 1F424",
  "baby_dark_skin_tone 1F476-1F3FF baby_light_skin_tone 1F476-1F3FB",
  "baby_medium-dark_skin_tone 1F476-1F3FE baby_medium-light_skin_tone 1F476-1F3FC",
  "baby_medium_skin_tone 1F476-1F3FD baby_symbol 1F6BC back 1F519 back_arrow 1F519",
  "backhand_index_pointing_down 1F447 backhand_index_pointing_down_dark_skin_tone 1F447-1F3FF",
  "backhand_index_pointing_down_light_skin_tone 1F447-1F3FB",
  "backhand_index_pointing_down_medium-dark_skin_tone 1F447-1F3FE",
  "backhand_index_pointing_down_medium-light_skin_tone 1F447-1F3FC",
  "backhand_index_pointing_down_medium_skin_tone 1F447-1F3FD backhand_index_pointing_left 1F448",
  "backhand_index_pointing_left_dark_skin_tone 1F448-1F3FF",
  "backhand_index_pointing_left_light_skin_tone 1F448-1F3FB",
  "backhand_index_pointing_left_medium-dark_skin_tone 1F448-1F3FE",
  "backhand_index_pointing_left_medium-light_skin_tone 1F448-1F3FC",
  "backhand_index_pointing_left_medium_skin_tone 1F448-1F3FD backhand_index_pointing_right 1F449",
  "backhand_index_pointing_right_dark_skin_tone 1F449-1F3FF",
  "backhand_index_pointing_right_light_skin_tone 1F449-1F3FB",
  "backhand_index_pointing_right_medium-dark_skin_tone 1F449-1F3FE",
  "backhand_index_pointing_right_medium-light_skin_tone 1F449-1F3FC",
  "backhand_index_pointing_right_medium_skin_tone 1F449-1F3FD backhand_index_pointing_up 1F446",
  "backhand_index_pointing_up_dark_skin_tone 1F446-1F3FF",
  "backhand_index_pointing_up_light_skin_tone 1F446-1F3FB",
  "backhand_index_pointing_up_medium-dark_skin_tone 1F446-1F3FE",
  "backhand_index_pointing_up_medium-light_skin_tone 1F446-1F3FC",
  "backhand_index_pointing_up_medium_skin_tone 1F446-1F3FD bacon 1F953 badger 1F9A1",
  "badminton 1F3F8 badminton_racquet_and_shuttlecock 1F3F8 bagel 1F96F baggage_claim 1F6C4",
  "baguette_bread 1F956 bahamas 1F1E7-1F1F8 bahrain 1F1E7-1F1ED balance_scale 2696 bald 1F9B2",
  "bald_man 1F468-200D-1F9B2 bald_woman 1F469-200D-1F9B2 ballet_shoes 1FA70 balloon 1F388",
  "ballot_box_with_ballot 1F5F3 ballot_box_with_check 2611 bamboo 1F38D banana 1F34C bangbang 203C",
  "bangladesh 1F1E7-1F1E9 banjo 1FA95 bank 1F3E6 bar_chart 1F4CA barbados 1F1E7-1F1E7 barber 1F488",
  "barber_pole 1F488 baseball 26BE basket 1F9FA basketball 1F3C0 bat 1F987 bath 1F6C0",
  "bathtub 1F6C1 battery 1F50B beach_with_umbrella 1F3D6 beaming_face_with_smiling_eyes 1F601",
  "bear 1F43B bear_face 1F43B bearded_person 1F9D4 bearded_person_dark_skin_tone 1F9D4-1F3FF",
  "bearded_person_light_skin_tone 1F9D4-1F3FB bearded_person_medium-dark_skin_tone 1F9D4-1F3FE",
  "bearded_person_medium-light_skin_tone 1F9D4-1F3FC bearded_person_medium_skin_tone 1F9D4-1F3FD",
  "beating_heart 1F493 bed 1F6CF bee 1F41D beer 1F37A beer_mug 1F37A beers 1F37B beetle 1F41E",
  "beginner 1F530 belarus 1F1E7-1F1FE belgium 1F1E7-1F1EA belize 1F1E7-1F1FF bell 1F514",
  "bell_with_slash 1F515 bellhop_bell 1F6CE benin 1F1E7-1F1EF bento 1F371 bento_box 1F371",
  "bermuda 1F1E7-1F1F2 beverage_box 1F9C3 bhutan 1F1E7-1F1F9 bicycle 1F6B2 bicyclist 1F6B4",
  "bike 1F6B2 bikini 1F459 billed_cap 1F9E2 biohazard 2623 biohazard_sign 2623 bird 1F426",
  "birthday 1F382 birthday_cake 1F382 black_circle 26AB black_circle_for_record 23FA",
  "black_flag 1F3F4 black_heart 1F5A4 black_joker 1F0CF black_large_square 2B1B",
  "black_left__pointing_double_triangle_with_vertical_bar 23EE black_medium-small_square 25FE",
  "black_medium_small_square 25FE black_medium_square 25FC black_nib 2712",
  "black_right__pointing_double_triangle_with_vertical_bar 23ED",
  "black_right__pointing_triangle_with_double_vertical_bar 23EF black_small_square 25AA",
  "black_square_button 1F532 black_square_for_stop 23F9 blond-haired_man 1F471-200D-2642-FE0F",
  "blond-haired_man_dark_skin_tone 1F471-1F3FF-200D-2642-FE0F",
  "blond-haired_man_light_skin_tone 1F471-1F3FB-200D-2642-FE0F",
  "blond-haired_man_medium-dark_skin_tone 1F471-1F3FE-200D-2642-FE0F",
  "blond-haired_man_medium-light_skin_tone 1F471-1F3FC-200D-2642-FE0F",
  "blond-haired_man_medium_skin_tone 1F471-1F3FD-200D-2642-FE0F blond-haired_person 1F471",
  "blond-haired_person_dark_skin_tone 1F471-1F3FF blond-haired_person_light_skin_tone 1F471-1F3FB",
  "blond-haired_person_medium-dark_skin_tone 1F471-1F3FE",
  "blond-haired_person_medium-light_skin_tone 1F471-1F3FC",
  "blond-haired_person_medium_skin_tone 1F471-1F3FD blond-haired_woman 1F471-200D-2640-FE0F",
  "blond-haired_woman_dark_skin_tone 1F471-1F3FF-200D-2640-FE0F",
  "blond-haired_woman_light_skin_tone 1F471-1F3FB-200D-2640-FE0F",
  "blond-haired_woman_medium-dark_skin_tone 1F471-1F3FE-200D-2640-FE0F",
  "blond-haired_woman_medium-light_skin_tone 1F471-1F3FC-200D-2640-FE0F",
  "blond-haired_woman_medium_skin_tone 1F471-1F3FD-200D-2640-FE0F blossom 1F33C blowfish 1F421",
  "blue_book 1F4D8 blue_car 1F699 blue_circle 1F535 blue_heart 1F499 blue_square 1F7E6 blush 1F60A",
  "boar 1F417 boat 26F5 bolivia 1F1E7-1F1F4 bomb 1F4A3 bone 1F9B4 book 1F4D6 bookmark 1F516",
  "bookmark_tabs 1F4D1 books 1F4DA boom 1F4A5 boot 1F462 bosnia_&_herzegovina 1F1E7-1F1E6",
  "botswana 1F1E7-1F1FC bottle_with_popping_cork 1F37E bouquet 1F490 bouvet_island 1F1E7-1F1FB",
  "bow 1F647 bow_and_arrow 1F3F9 bowl_with_spoon 1F963 bowling 1F3B3 boxing_glove 1F94A boy 1F466",
  "boy_dark_skin_tone 1F466-1F3FF boy_light_skin_tone 1F466-1F3FB",
  "boy_medium-dark_skin_tone 1F466-1F3FE boy_medium-light_skin_tone 1F466-1F3FC",
  "boy_medium_skin_tone 1F466-1F3FD brain 1F9E0 brazil 1F1E7-1F1F7 bread 1F35E",
  "breast-feeding 1F931 breast-feeding_dark_skin_tone 1F931-1F3FF",
  "breast-feeding_light_skin_tone 1F931-1F3FB breast-feeding_medium-dark_skin_tone 1F931-1F3FE",
  "breast-feeding_medium-light_skin_tone 1F931-1F3FC breast-feeding_medium_skin_tone 1F931-1F3FD",
  "brick 1F9F1 bride_with_veil 1F470 bride_with_veil_dark_skin_tone 1F470-1F3FF",
  "bride_with_veil_light_skin_tone 1F470-1F3FB bride_with_veil_medium-dark_skin_tone 1F470-1F3FE",
  "bride_with_veil_medium-light_skin_tone 1F470-1F3FC bride_with_veil_medium_skin_tone 1F470-1F3FD",
  "bridge_at_night 1F309 briefcase 1F4BC briefs 1FA72 bright_button 1F506",
  "british_indian_ocean_territory 1F1EE-1F1F4 british_virgin_islands 1F1FB-1F1EC broccoli 1F966",
  "broken_heart 1F494 broom 1F9F9 brown_circle 1F7E4 brown_heart 1F90E brown_square 1F7EB",
  "brunei 1F1E7-1F1F3 bug 1F41B building_construction 1F3D7 bulb 1F4A1 bulgaria 1F1E7-1F1EC",
  "bullet_train 1F685 bullettrain_front 1F685 bullettrain_side 1F684 burkina_faso 1F1E7-1F1EB",
  "burrito 1F32F burundi 1F1E7-1F1EE bus 1F68C bus_stop 1F68F busstop 1F68F",
  "bust_in_silhouette 1F464 busts_in_silhouette 1F465 butter 1F9C8 butterfly 1F98B cactus 1F335",
  "cake 1F370 calendar 1F4C6 call_me_hand 1F919 call_me_hand_dark_skin_tone 1F919-1F3FF",
  "call_me_hand_light_skin_tone 1F919-1F3FB call_me_hand_medium-dark_skin_tone 1F919-1F3FE",
  "call_me_hand_medium-light_skin_tone 1F919-1F3FC call_me_hand_medium_skin_tone 1F919-1F3FD",
  "calling 1F4F2 cambodia 1F1F0-1F1ED camel 1F42B camera 1F4F7 camera_with_flash 1F4F8",
  "cameroon 1F1E8-1F1F2 camping 1F3D5 canada 1F1E8-1F1E6 canary_islands 1F1EE-1F1E8 cancer 264B",
  "candle 1F56F candy 1F36C canned_food 1F96B canoe 1F6F6 cape_verde 1F1E8-1F1FB",
  "capital_abcd 1F520 capricorn 2651 car 1F697 card_file_box 1F5C3 card_index 1F4C7",
  "card_index_dividers 1F5C2 caribbean_netherlands 1F1E7-1F1F6 carousel_horse 1F3A0",
  "carp_streamer 1F38F carrot 1F955 castle 1F3F0 cat 1F431 cat2 1F408 cat_face 1F431",
  "cat_face_with_tears_of_joy 1F639 cat_face_with_wry_smile 1F63C cayman_islands 1F1F0-1F1FE",
  "cd 1F4BF central_african_republic 1F1E8-1F1EB ceuta_&_melilla 1F1EA-1F1E6 chad 1F1F9-1F1E9",
  "chains 26D3 chair 1FA91 chart 1F4B9 chart_decreasing 1F4C9 chart_increasing 1F4C8",
  "chart_increasing_with_yen 1F4B9 chart_with_downwards_trend 1F4C9 chart_with_upwards_trend 1F4C8",
  "checkered_flag 1F3C1 cheese_wedge 1F9C0 chequered_flag 1F3C1 cherries 1F352",
  "cherry_blossom 1F338 chess_pawn 265F chestnut 1F330 chicken 1F414 child 1F9D2",
  "child_dark_skin_tone 1F9D2-1F3FF child_light_skin_tone 1F9D2-1F3FB",
  "child_medium-dark_skin_tone 1F9D2-1F3FE child_medium-light_skin_tone 1F9D2-1F3FC",
  "child_medium_skin_tone 1F9D2-1F3FD children_crossing 1F6B8 chile 1F1E8-1F1F1 china 1F1E8-1F1F3",
  "chipmunk 1F43F chocolate_bar 1F36B chopsticks 1F962 christmas_island 1F1E8-1F1FD",
  "christmas_tree 1F384 church 26EA cigarette 1F6AC cinema 1F3A6 circled_m 24C2 circus_tent 1F3AA",
  "city_sunrise 1F307 city_sunset 1F306 cityscape 1F3D9 cityscape_at_dusk 1F306 cl 1F191",
  "cl_button 1F191 clamp 1F5DC clap 1F44F clapper 1F3AC clapper_board 1F3AC clapping_hands 1F44F",
  "clapping_hands_dark_skin_tone 1F44F-1F3FF clapping_hands_light_skin_tone 1F44F-1F3FB",
  "clapping_hands_medium-dark_skin_tone 1F44F-1F3FE",
  "clapping_hands_medium-light_skin_tone 1F44F-1F3FC clapping_hands_medium_skin_tone 1F44F-1F3FD",
  "classical_building 1F3DB clinking_beer_mugs 1F37B clinking_glasses 1F942 clipboard 1F4CB",
  "clipperton_island 1F1E8-1F1F5 clock1 1F550 clock10 1F559 clock1030 1F565 clock11 1F55A",
  "clock1130 1F566 clock12 1F55B clock1230 1F567 clock130 1F55C clock2 1F551 clock230 1F55D",
  "clock3 1F552 clock330 1F55E clock4 1F553 clock430 1F55F clock5 1F554 clock530 1F560",
  "clock6 1F555 clock630 1F561 clock7 1F556 clock730 1F562 clock8 1F557 clock830 1F563",
  "clock9 1F558 clock930 1F564 clockwise_vertical_arrows 1F503 closed_book 1F4D5",
  "closed_lock_with_key 1F510 closed_mailbox_with_lowered_flag 1F4EA",
  "closed_mailbox_with_raised_flag 1F4EB closed_umbrella 1F302 cloud 2601",
  "cloud_with_lightning 1F329 cloud_with_lightning_and_rain 26C8 cloud_with_rain 1F327",
  "cloud_with_snow 1F328 cloud_with_tornado 1F32A clown_face 1F921 club_suit 2663 clubs 2663",
  "clutch_bag 1F45D coat 1F9E5 cocktail 1F378 cocktail_glass 1F378 coconut 1F965",
  "cocos_(keeling)_islands 1F1E8-1F1E8 coffee 2615 coffin 26B0 cold_face 1F976 cold_sweat 1F630",
  "collision 1F4A5 colombia 1F1E8-1F1F4 comet 2604 comoros 1F1F0-1F1F2 compass 1F9ED",
  "compression 1F5DC computer 1F4BB computer_disk 1F4BD computer_mouse 1F5B1 confetti_ball 1F38A",
  "confounded 1F616 confounded_face 1F616 confused 1F615 confused_face 1F615",
  "congo_-_brazzaville 1F1E8-1F1EC congo_-_kinshasa 1F1E8-1F1E9 congratulations 3297",
  "construction 1F6A7 construction_worker 1F477 construction_worker_dark_skin_tone 1F477-1F3FF",
  "construction_worker_light_skin_tone 1F477-1F3FB",
  "construction_worker_medium-dark_skin_tone 1F477-1F3FE",
  "construction_worker_medium-light_skin_tone 1F477-1F3FC",
  "construction_worker_medium_skin_tone 1F477-1F3FD control_knobs 1F39B convenience_store 1F3EA",
  "cook_islands 1F1E8-1F1F0 cooked_rice 1F35A cookie 1F36A cooking 1F373 cool 1F192",
  "cool_button 1F192 cop 1F46E copyright A9 corn 1F33D costa_rica 1F1E8-1F1F7 couch_and_lamp 1F6CB",
  "counterclockwise_arrows_button 1F504 couple 1F46B couple_with_heart 1F491",
  "couple_with_heart_man_man 1F468-200D-2764-FE0F-200D-1F468",
  "couple_with_heart_woman_man 1F469-200D-2764-FE0F-200D-1F468",
  "couple_with_heart_woman_woman 1F469-200D-2764-FE0F-200D-1F469 couplekiss 1F48F cow 1F42E",
  "cow2 1F404 cow_face 1F42E cowboy_hat_face 1F920 crab 1F980 crayon 1F58D credit_card 1F4B3",
  "crescent_moon 1F319 cricket 1F997 cricket_bat_and_ball 1F3CF cricket_game 1F3CF",
  "croatia 1F1ED-1F1F7 crocodile 1F40A croissant 1F950 cross_mark 274C cross_mark_button 274E",
  "crossed_fingers 1F91E crossed_fingers_dark_skin_tone 1F91E-1F3FF",
  "crossed_fingers_light_skin_tone 1F91E-1F3FB crossed_fingers_medium-dark_skin_tone 1F91E-1F3FE",
  "crossed_fingers_medium-light_skin_tone 1F91E-1F3FC crossed_fingers_medium_skin_tone 1F91E-1F3FD",
  "crossed_flags 1F38C crossed_swords 2694 crown 1F451 cry 1F622 crying_cat_face 1F63F",
  "crying_face 1F622 crystal_ball 1F52E cuba 1F1E8-1F1FA cucumber 1F952 cup_with_straw 1F964",
  "cupcake 1F9C1 cupid 1F498 curaçao 1F1E8-1F1FC curling_stone 1F94C",
  "curly-haired_man 1F468-200D-1F9B1 curly-haired_woman 1F469-200D-1F9B1 curly_hair 1F9B1",
  "curly_loop 27B0 currency_exchange 1F4B1 curry 1F35B curry_rice 1F35B custard 1F36E",
  "customs 1F6C3 cut_of_meat 1F969 cyclone 1F300 cyprus 1F1E8-1F1FE czechia 1F1E8-1F1FF",
  "côte_d’ivoire 1F1E8-1F1EE"]

end PostSearch.Emoji
