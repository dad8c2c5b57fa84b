/-! # Pictures by name, T to Z

The names from `t` on. Every name is followed by the
code points of its picture. -/

namespace PostSearch.Emoji

def rowsTToZ : List String := [
  "t-rex 1F996 t-shirt 1F455 table_tennis_paddle_and_ball 1F3D3 taco 1F32E tada 1F389",
  "taiwan 1F1F9-1F1FC tajikistan 1F1F9-1F1EF takeout_box 1F961 tanabata_tree 1F38B tangerine 1F34A",
  "tanzania 1F1F9-1F1FF taurus 2649 taxi 1F695 tea 1F375 teacup_without_handle 1F375",
  "tear-off_calendar 1F4C6 teddy_bear 1F9F8 telephone 260E telephone_receiver 1F4DE",
  "telescope 1F52D television 1F4FA ten 1F51F ten-thirty 1F565 ten_o’clock 1F559 tennis 1F3BE",
  "tent 26FA test_tube 1F9EA thailand 1F1F9-1F1ED thermometer 1F321 thinking_face 1F914",
  "thought_balloon 1F4AD thread 1F9F5 three 33-FE0F-20E3 three-thirty 1F55E",
  "three_button_mouse 1F5B1 three_o’clock 1F552 thumbs_down 1F44E",
  "thumbs_down_dark_skin_tone 1F44E-1F3FF thumbs_down_light_skin_tone 1F44E-1F3FB",
  "thumbs_down_medium-dark_skin_tone 1F44E-1F3FE thumbs_down_medium-light_skin_tone 1F44E-1F3FC",
  "thumbs_down_medium_skin_tone 1F44E-1F3FD thumbs_up 1F44D thumbs_up_dark_skin_tone 1F44D-1F3FF",
  "thumbs_up_light_skin_tone 1F44D-1F3FB thumbs_up_medium-dark_skin_tone 1F44D-1F3FE",
  "thumbs_up_medium-light_skin_tone 1F44D-1F3FC thumbs_up_medium_skin_tone 1F44D-1F3FD",
  "thumbsdown 1F44E thumbsup 1F44D thunder_cloud_and_rain 26C8 ticket 1F3AB tiger 1F42F",
  "tiger2 1F405 tiger_face 1F42F timer_clock 23F2 timor-leste 1F1F9-1F1F1 tired_face 1F62B tm 2122",
  "togo 1F1F9-1F1EC toilet 1F6BD tokelau 1F1F9-1F1F0 tokyo_tower 1F5FC tomato 1F345",
  "tonga 1F1F9-1F1F4 tongue 1F445 toolbox 1F9F0 tooth 1F9B7 top 1F51D top_arrow 1F51D",
  "top_hat 1F3A9 tophat 1F3A9 tornado 1F32A trackball 1F5B2 tractor 1F69C trade_mark 2122",
  "traffic_light 1F6A5 train 1F68B train2 1F686 tram 1F68A tram_car 1F68B triangular_flag 1F6A9",
  "triangular_flag_on_post 1F6A9 triangular_ruler 1F4D0 trident 1F531 trident_emblem 1F531",
  "trinidad_&_tobago 1F1F9-1F1F9 tristan_da_cunha 1F1F9-1F1E6 triumph 1F624 trolleybus 1F68E",
  "trophy 1F3C6 tropical_drink 1F379 tropical_fish 1F420 truck 1F69A trumpet 1F3BA tshirt 1F455",
  "tulip 1F337 tumbler_glass 1F943 tunisia 1F1F9-1F1F3 turkey 1F983 turkmenistan 1F1F9-1F1F2",
  "turks_&_caicos_islands 1F1F9-1F1E8 turtle 1F422 tuvalu 1F1F9-1F1FB tv 1F4FA twelve-thirty 1F567",
  "twelve_o’clock 1F55B twisted_rightwards_arrows 1F500 two 32-FE0F-20E3 two-hump_camel 1F42B",
  "two-thirty 1F55D two_hearts 1F495 two_men_holding_hands 1F46C two_o’clock 1F551",
  "two_women_holding_hands 1F46D u.s._outlying_islands 1F1FA-1F1F2 u.s._virgin_islands 1F1FB-1F1EE",
  "u5272 1F239 u5408 1F234 u55b6 1F23A u6307 1F22F u6708 1F237 u6709 1F236 u6e80 1F235 u7121 1F21A",
  "u7533 1F238 u7981 1F232 u7a7a 1F233 uganda 1F1FA-1F1EC ukraine 1F1FA-1F1E6 umbrella 2602",
  "umbrella_on_ground 26F1 umbrella_with_rain_drops 2614 unamused 1F612 unamused_face 1F612",
  "underage 1F51E unicorn_face 1F984 united_arab_emirates 1F1E6-1F1EA united_kingdom 1F1EC-1F1E7",
  "united_nations 1F1FA-1F1F3 united_states 1F1FA-1F1F8 unlock 1F513 unlocked 1F513 up 1F199",
  "up!_button 1F199 up-down_arrow 2195 up-left_arrow 2196 up-right_arrow 2197 up_arrow 2B06",
  "upside-down_face 1F643 upside__down_face 1F643 upwards_button 1F53C uruguay 1F1FA-1F1FE",
  "uzbekistan 1F1FA-1F1FF v 270C vampire 1F9DB vampire_dark_skin_tone 1F9DB-1F3FF",
  "vampire_light_skin_tone 1F9DB-1F3FB vampire_medium-dark_skin_tone 1F9DB-1F3FE",
  "vampire_medium-light_skin_tone 1F9DB-1F3FC vampire_medium_skin_tone 1F9DB-1F3FD",
  "vanuatu 1F1FB-1F1FA vatican_city 1F1FB-1F1E6 venezuela 1F1FB-1F1EA vertical_traffic_light 1F6A6",
  "vhs 1F4FC vibration_mode 1F4F3 victory_hand 270C victory_hand_dark_skin_tone 270C-1F3FF",
  "victory_hand_light_skin_tone 270C-1F3FB victory_hand_medium-dark_skin_tone 270C-1F3FE",
  "victory_hand_medium-light_skin_tone 270C-1F3FC victory_hand_medium_skin_tone 270C-1F3FD",
  "video_camera 1F4F9 video_game 1F3AE videocassette 1F4FC vietnam 1F1FB-1F1F3 violin 1F3BB",
  "virgo 264D volcano 1F30B volleyball 1F3D0 vs 1F19A vs_button 1F19A vulcan_salute 1F596",
  "vulcan_salute_dark_skin_tone 1F596-1F3FF vulcan_salute_light_skin_tone 1F596-1F3FB",
  "vulcan_salute_medium-dark_skin_tone 1F596-1F3FE",
  "vulcan_salute_medium-light_skin_tone 1F596-1F3FC vulcan_salute_medium_skin_tone 1F596-1F3FD",
  "waffle 1F9C7 wales 1F3F4-E0067-E0062-E0077-E006C-E0073-E007F walking 1F6B6",
  "wallis_&_futuna 1F1FC-1F1EB waning_crescent_moon 1F318 waning_gibbous_moon 1F316 warning 26A0",
  "wastebasket 1F5D1 watch 231A water_buffalo 1F403 water_closet 1F6BE water_wave 1F30A",
  "watermelon 1F349 wave 1F44B waving_black_flag 1F3F4 waving_hand 1F44B",
  "waving_hand_dark_skin_tone 1F44B-1F3FF waving_hand_light_skin_tone 1F44B-1F3FB",
  "waving_hand_medium-dark_skin_tone 1F44B-1F3FE waving_hand_medium-light_skin_tone 1F44B-1F3FC",
  "waving_hand_medium_skin_tone 1F44B-1F3FD waving_white_flag 1F3F3 wavy_dash 3030",
  "waxing_crescent_moon 1F312 waxing_gibbous_moon 1F314 wc 1F6BE weary 1F629 weary_cat_face 1F640",
  "weary_face 1F629 wedding 1F492 weight_lifter 1F3CB western_sahara 1F1EA-1F1ED whale 1F433",
  "whale2 1F40B wheel_of_dharma 2638 wheelchair 267F wheelchair_symbol 267F",
  "white-haired_man 1F468-200D-1F9B3 white-haired_woman 1F469-200D-1F9B3 white_check_mark 2705",
  "white_circle 26AA white_exclamation_mark 2755 white_flag 1F3F3 white_flower 1F4AE",
  "white_frowning_face 2639 white_hair 1F9B3 white_heart 1F90D white_heavy_check_mark 2705",
  "white_large_square 2B1C white_medium-small_square 25FD white_medium_small_square 25FD",
  "white_medium_square 25FB white_medium_star 2B50 white_question_mark 2754",
  "white_small_square 25AB white_square_button 1F533 white_sun_behind_cloud 1F325",
  "white_sun_behind_cloud_with_rain 1F326 white_sun_with_small_cloud 1F324 wilted_flower 1F940",
  "wind_blowing_face 1F32C wind_chime 1F390 wind_face 1F32C wine_glass 1F377 wink 1F609",
  "winking_face 1F609 winking_face_with_tongue 1F61C wolf 1F43A wolf_face 1F43A woman 1F469",
  "woman_artist 1F469-200D-1F3A8 woman_artist_dark_skin_tone 1F469-1F3FF-200D-1F3A8",
  "woman_artist_light_skin_tone 1F469-1F3FB-200D-1F3A8",
  "woman_artist_medium-dark_skin_tone 1F469-1F3FE-200D-1F3A8",
  "woman_artist_medium-light_skin_tone 1F469-1F3FC-200D-1F3A8",
  "woman_artist_medium_skin_tone 1F469-1F3FD-200D-1F3A8 woman_astronaut 1F469-200D-1F680",
  "woman_astronaut_dark_skin_tone 1F469-1F3FF-200D-1F680",
  "woman_astronaut_light_skin_tone 1F469-1F3FB-200D-1F680",
  "woman_astronaut_medium-dark_skin_tone 1F469-1F3FE-200D-1F680",
  "woman_astronaut_medium-light_skin_tone 1F469-1F3FC-200D-1F680",
  "woman_astronaut_medium_skin_tone 1F469-1F3FD-200D-1F680 woman_biking 1F6B4-200D-2640-FE0F",
  "woman_biking_dark_skin_tone 1F6B4-1F3FF-200D-2640-FE0F",
  "woman_biking_light_skin_tone 1F6B4-1F3FB-200D-2640-FE0F",
  "woman_biking_medium-dark_skin_tone 1F6B4-1F3FE-200D-2640-FE0F",
  "woman_biking_medium-light_skin_tone 1F6B4-1F3FC-200D-2640-FE0F",
  "woman_biking_medium_skin_tone 1F6B4-1F3FD-200D-2640-FE0F",
  "woman_bouncing_ball 26F9-FE0F-200D-2640-FE0F",
  "woman_bouncing_ball_dark_skin_tone 26F9-1F3FF-200D-2640-FE0F",
  "woman_bouncing_ball_light_skin_tone 26F9-1F3FB-200D-2640-FE0F",
  "woman_bouncing_ball_medium-dark_skin_tone 26F9-1F3FE-200D-2640-FE0F",
  "woman_bouncing_ball_medium-light_skin_tone 26F9-1F3FC-200D-2640-FE0F",
  "woman_bouncing_ball_medium_skin_tone 26F9-1F3FD-200D-2640-FE0F",
  "woman_bowing 1F647-200D-2640-FE0F woman_bowing_dark_skin_tone 1F647-1F3FF-200D-2640-FE0F",
  "woman_bowing_light_skin_tone 1F647-1F3FB-200D-2640-FE0F",
  "woman_bowing_medium-dark_skin_tone 1F647-1F3FE-200D-2640-FE0F",
  "woman_bowing_medium-light_skin_tone 1F647-1F3FC-200D-2640-FE0F",
  "woman_bowing_medium_skin_tone 1F647-1F3FD-200D-2640-FE0F",
  "woman_cartwheeling 1F938-200D-2640-FE0F",
  "woman_cartwheeling_dark_skin_tone 1F938-1F3FF-200D-2640-FE0F",
  "woman_cartwheeling_light_skin_tone 1F938-1F3FB-200D-2640-FE0F",
  "woman_cartwheeling_medium-dark_skin_tone 1F938-1F3FE-200D-2640-FE0F",
  "woman_cartwheeling_medium-light_skin_tone 1F938-1F3FC-200D-2640-FE0F",
  "woman_cartwheeling_medium_skin_tone 1F938-1F3FD-200D-2640-FE0F",
  "woman_climbing 1F9D7-200D-2640-FE0F woman_climbing_dark_skin_tone 1F9D7-1F3FF-200D-2640-FE0F",
  "woman_climbing_light_skin_tone 1F9D7-1F3FB-200D-2640-FE0F",
  "woman_climbing_medium-dark_skin_tone 1F9D7-1F3FE-200D-2640-FE0F",
  "woman_climbing_medium-light_skin_tone 1F9D7-1F3FC-200D-2640-FE0F",
  "woman_climbing_medium_skin_tone 1F9D7-1F3FD-200D-2640-FE0F",
  "woman_construction_worker 1F477-200D-2640-FE0F",
  "woman_construction_worker_dark_skin_tone 1F477-1F3FF-200D-2640-FE0F",
  "woman_construction_worker_light_skin_tone 1F477-1F3FB-200D-2640-FE0F",
  "woman_construction_worker_medium-dark_skin_tone 1F477-1F3FE-200D-2640-FE0F",
  "woman_construction_worker_medium-light_skin_tone 1F477-1F3FC-200D-2640-FE0F",
  "woman_construction_worker_medium_skin_tone 1F477-1F3FD-200D-2640-FE0F",
  "woman_cook 1F469-200D-1F373 woman_cook_dark_skin_tone 1F469-1F3FF-200D-1F373",
  "woman_cook_light_skin_tone 1F469-1F3FB-200D-1F373",
  "woman_cook_medium-dark_skin_tone 1F469-1F3FE-200D-1F373",
  "woman_cook_medium-light_skin_tone 1F469-1F3FC-200D-1F373",
  "woman_cook_medium_skin_tone 1F469-1F3FD-200D-1F373 woman_dancing 1F483",
  "woman_dancing_dark_skin_tone 1F483-1F3FF woman_dancing_light_skin_tone 1F483-1F3FB",
  "woman_dancing_medium-dark_skin_tone 1F483-1F3FE",
  "woman_dancing_medium-light_skin_tone 1F483-1F3FC woman_dancing_medium_skin_tone 1F483-1F3FD",
  "woman_dark_skin_tone 1F469-1F3FF woman_detective 1F575-FE0F-200D-2640-FE0F",
  "woman_detective_dark_skin_tone 1F575-1F3FF-200D-2640-FE0F",
  "woman_detective_light_skin_tone 1F575-1F3FB-200D-2640-FE0F",
  "woman_detective_medium-dark_skin_tone 1F575-1F3FE-200D-2640-FE0F",
  "woman_detective_medium-light_skin_tone 1F575-1F3FC-200D-2640-FE0F",
  "woman_detective_medium_skin_tone 1F575-1F3FD-200D-2640-FE0F woman_elf 1F9DD-200D-2640-FE0F",
  "woman_elf_dark_skin_tone 1F9DD-1F3FF-200D-2640-FE0F",
  "woman_elf_light_skin_tone 1F9DD-1F3FB-200D-2640-FE0F",
  "woman_elf_medium-dark_skin_tone 1F9DD-1F3FE-200D-2640-FE0F",
  "woman_elf_medium-light_skin_tone 1F9DD-1F3FC-200D-2640-FE0F",
  "woman_elf_medium_skin_tone 1F9DD-1F3FD-200D-2640-FE0F woman_facepalming 1F926-200D-2640-FE0F",
  "woman_facepalming_dark_skin_tone 1F926-1F3FF-200D-2640-FE0F",
  "woman_facepalming_light_skin_tone 1F926-1F3FB-200D-2640-FE0F",
  "woman_facepalming_medium-dark_skin_tone 1F926-1F3FE-200D-2640-FE0F",
  "woman_facepalming_medium-light_skin_tone 1F926-1F3FC-200D-2640-FE0F",
  "woman_facepalming_medium_skin_tone 1F926-1F3FD-200D-2640-FE0F",
  "woman_factory_worker 1F469-200D-1F3ED",
  "woman_factory_worker_dark_skin_tone 1F469-1F3FF-200D-1F3ED",
  "woman_factory_worker_light_skin_tone 1F469-1F3FB-200D-1F3ED",
  "woman_factory_worker_medium-dark_skin_tone 1F469-1F3FE-200D-1F3ED",
  "woman_factory_worker_medium-light_skin_tone 1F469-1F3FC-200D-1F3ED",
  "woman_factory_worker_medium_skin_tone 1F469-1F3FD-200D-1F3ED woman_fairy 1F9DA-200D-2640-FE0F",
  "woman_fairy_dark_skin_tone 1F9DA-1F3FF-200D-2640-FE0F",
  "woman_fairy_light_skin_tone 1F9DA-1F3FB-200D-2640-FE0F",
  "woman_fairy_medium-dark_skin_tone 1F9DA-1F3FE-200D-2640-FE0F",
  "woman_fairy_medium-light_skin_tone 1F9DA-1F3FC-200D-2640-FE0F",
  "woman_fairy_medium_skin_tone 1F9DA-1F3FD-200D-2640-FE0F woman_farmer 1F469-200D-1F33E",
  "woman_farmer_dark_skin_tone 1F469-1F3FF-200D-1F33E",
  "woman_farmer_light_skin_tone 1F469-1F3FB-200D-1F33E",
  "woman_farmer_medium-dark_skin_tone 1F469-1F3FE-200D-1F33E",
  "woman_farmer_medium-light_skin_tone 1F469-1F3FC-200D-1F33E",
  "woman_farmer_medium_skin_tone 1F469-1F3FD-200D-1F33E woman_firefighter 1F469-200D-1F692",
  "woman_firefighter_dark_skin_tone 1F469-1F3FF-200D-1F692",
  "woman_firefighter_light_skin_tone 1F469-1F3FB-200D-1F692",
  "woman_firefighter_medium-dark_skin_tone 1F469-1F3FE-200D-1F692",
  "woman_firefighter_medium-light_skin_tone 1F469-1F3FC-200D-1F692",
  "woman_firefighter_medium_skin_tone 1F469-1F3FD-200D-1F692 woman_frowning 1F64D-200D-2640-FE0F",
  "woman_frowning_dark_skin_tone 1F64D-1F3FF-200D-2640-FE0F",
  "woman_frowning_light_skin_tone 1F64D-1F3FB-200D-2640-FE0F",
  "woman_frowning_medium-dark_skin_tone 1F64D-1F3FE-200D-2640-FE0F",
  "woman_frowning_medium-light_skin_tone 1F64D-1F3FC-200D-2640-FE0F",
  "woman_frowning_medium_skin_tone 1F64D-1F3FD-200D-2640-FE0F woman_genie 1F9DE-200D-2640-FE0F",
  "woman_gesturing_no 1F645-200D-2640-FE0F",
  "woman_gesturing_no_dark_skin_tone 1F645-1F3FF-200D-2640-FE0F",
  "woman_gesturing_no_light_skin_tone 1F645-1F3FB-200D-2640-FE0F",
  "woman_gesturing_no_medium-dark_skin_tone 1F645-1F3FE-200D-2640-FE0F",
  "woman_gesturing_no_medium-light_skin_tone 1F645-1F3FC-200D-2640-FE0F",
  "woman_gesturing_no_medium_skin_tone 1F645-1F3FD-200D-2640-FE0F",
  "woman_gesturing_ok 1F646-200D-2640-FE0F",
  "woman_gesturing_ok_dark_skin_tone 1F646-1F3FF-200D-2640-FE0F",
  "woman_gesturing_ok_light_skin_tone 1F646-1F3FB-200D-2640-FE0F",
  "woman_gesturing_ok_medium-dark_skin_tone 1F646-1F3FE-200D-2640-FE0F",
  "woman_gesturing_ok_medium-light_skin_tone 1F646-1F3FC-200D-2640-FE0F",
  "woman_gesturing_ok_medium_skin_tone 1F646-1F3FD-200D-2640-FE0F",
  "woman_getting_haircut 1F487-200D-2640-FE0F",
  "woman_getting_haircut_dark_skin_tone 1F487-1F3FF-200D-2640-FE0F",
  "woman_getting_haircut_light_skin_tone 1F487-1F3FB-200D-2640-FE0F",
  "woman_getting_haircut_medium-dark_skin_tone 1F487-1F3FE-200D-2640-FE0F",
  "woman_getting_haircut_medium-light_skin_tone 1F487-1F3FC-200D-2640-FE0F",
  "woman_getting_haircut_medium_skin_tone 1F487-1F3FD-200D-2640-FE0F",
  "woman_getting_massage 1F486-200D-2640-FE0F",
  "woman_getting_massage_dark_skin_tone 1F486-1F3FF-200D-2640-FE0F",
  "woman_getting_massage_light_skin_tone 1F486-1F3FB-200D-2640-FE0F",
  "woman_getting_massage_medium-dark_skin_tone 1F486-1F3FE-200D-2640-FE0F",
  "woman_getting_massage_medium-light_skin_tone 1F486-1F3FC-200D-2640-FE0F",
  "woman_getting_massage_medium_skin_tone 1F486-1F3FD-200D-2640-FE0F",
  "woman_golfing 1F3CC-FE0F-200D-2640-FE0F woman_golfing_dark_skin_tone 1F3CC-1F3FF-200D-2640-FE0F",
  "woman_golfing_light_skin_tone 1F3CC-1F3FB-200D-2640-FE0F",
  "woman_golfing_medium-dark_skin_tone 1F3CC-1F3FE-200D-2640-FE0F",
  "woman_golfing_medium-light_skin_tone 1F3CC-1F3FC-200D-2640-FE0F",
  "woman_golfing_medium_skin_tone 1F3CC-1F3FD-200D-2640-FE0F woman_guard 1F482-200D-2640-FE0F",
  "woman_guard_dark_skin_tone 1F482-1F3FF-200D-2640-FE0F",
  "woman_guard_light_skin_tone 1F482-1F3FB-200D-2640-FE0F",
  "woman_guard_medium-dark_skin_tone 1F482-1F3FE-200D-2640-FE0F",
  "woman_guard_medium-light_skin_tone 1F482-1F3FC-200D-2640-FE0F",
  "woman_guard_medium_skin_tone 1F482-1F3FD-200D-2640-FE0F",
  "woman_health_worker 1F469-200D-2695-FE0F",
  "woman_health_worker_dark_skin_tone 1F469-1F3FF-200D-2695-FE0F",
  "woman_health_worker_light_skin_tone 1F469-1F3FB-200D-2695-FE0F",
  "woman_health_worker_medium-dark_skin_tone 1F469-1F3FE-200D-2695-FE0F",
  "woman_health_worker_medium-light_skin_tone 1F469-1F3FC-200D-2695-FE0F",
  "woman_health_worker_medium_skin_tone 1F469-1F3FD-200D-2695-FE0F",
  "woman_in_lotus_position 1F9D8-200D-2640-FE0F",
  "woman_in_lotus_position_dark_skin_tone 1F9D8-1F3FF-200D-2640-FE0F",
  "woman_in_lotus_position_light_skin_tone 1F9D8-1F3FB-200D-2640-FE0F",
  "woman_in_lotus_position_medium-dark_skin_tone 1F9D8-1F3FE-200D-2640-FE0F",
  "woman_in_lotus_position_medium-light_skin_tone 1F9D8-1F3FC-200D-2640-FE0F",
  "woman_in_lotus_position_medium_skin_tone 1F9D8-1F3FD-200D-2640-FE0F",
  "woman_in_manual_wheelchair 1F469-200D-1F9BD woman_in_motorized_wheelchair 1F469-200D-1F9BC",
  "woman_in_steamy_room 1F9D6-200D-2640-FE0F",
  "woman_in_steamy_room_dark_skin_tone 1F9D6-1F3FF-200D-2640-FE0F",
  "woman_in_steamy_room_light_skin_tone 1F9D6-1F3FB-200D-2640-FE0F",
  "woman_in_steamy_room_medium-dark_skin_tone 1F9D6-1F3FE-200D-2640-FE0F",
  "woman_in_steamy_room_medium-light_skin_tone 1F9D6-1F3FC-200D-2640-FE0F",
  "woman_in_steamy_room_medium_skin_tone 1F9D6-1F3FD-200D-2640-FE0F",
  "woman_judge 1F469-200D-2696-FE0F woman_judge_dark_skin_tone 1F469-1F3FF-200D-2696-FE0F",
  "woman_judge_light_skin_tone 1F469-1F3FB-200D-2696-FE0F",
  "woman_judge_medium-dark_skin_tone 1F469-1F3FE-200D-2696-FE0F",
  "woman_judge_medium-light_skin_tone 1F469-1F3FC-200D-2696-FE0F",
  "woman_judge_medium_skin_tone 1F469-1F3FD-200D-2696-FE0F woman_juggling 1F939-200D-2640-FE0F",
  "woman_juggling_dark_skin_tone 1F939-1F3FF-200D-2640-FE0F",
  "woman_juggling_light_skin_tone 1F939-1F3FB-200D-2640-FE0F",
  "woman_juggling_medium-dark_skin_tone 1F939-1F3FE-200D-2640-FE0F",
  "woman_juggling_medium-light_skin_tone 1F939-1F3FC-200D-2640-FE0F",
  "woman_juggling_medium_skin_tone 1F939-1F3FD-200D-2640-FE0F",
  "woman_lifting_weights 1F3CB-FE0F-200D-2640-FE0F",
  "woman_lifting_weights_dark_skin_tone 1F3CB-1F3FF-200D-2640-FE0F",
  "woman_lifting_weights_light_skin_tone 1F3CB-1F3FB-200D-2640-FE0F",
  "woman_lifting_weights_medium-dark_skin_tone 1F3CB-1F3FE-200D-2640-FE0F",
  "woman_lifting_weights_medium-light_skin_tone 1F3CB-1F3FC-200D-2640-FE0F",
  "woman_lifting_weights_medium_skin_tone 1F3CB-1F3FD-200D-2640-FE0F",
  "woman_light_skin_tone 1F469-1F3FB woman_mage 1F9D9-200D-2640-FE0F",
  "woman_mage_dark_skin_tone 1F9D9-1F3FF-200D-2640-FE0F",
  "woman_mage_light_skin_tone 1F9D9-1F3FB-200D-2640-FE0F",
  "woman_mage_medium-dark_skin_tone 1F9D9-1F3FE-200D-2640-FE0F",
  "woman_mage_medium-light_skin_tone 1F9D9-1F3FC-200D-2640-FE0F",
  "woman_mage_medium_skin_tone 1F9D9-1F3FD-200D-2640-FE0F woman_mechanic 1F469-200D-1F527",
  "woman_mechanic_dark_skin_tone 1F469-1F3FF-200D-1F527",
  "woman_mechanic_light_skin_tone 1F469-1F3FB-200D-1F527",
  "woman_mechanic_medium-dark_skin_tone 1F469-1F3FE-200D-1F527",
  "woman_mechanic_medium-light_skin_tone 1F469-1F3FC-200D-1F527",
  "woman_mechanic_medium_skin_tone 1F469-1F3FD-200D-1F527 woman_medium-dark_skin_tone 1F469-1F3FE",
  "woman_medium-light_skin_tone 1F469-1F3FC woman_medium_skin_tone 1F469-1F3FD",
  "woman_mountain_biking 1F6B5-200D-2640-FE0F",
  "woman_mountain_biking_dark_skin_tone 1F6B5-1F3FF-200D-2640-FE0F",
  "woman_mountain_biking_light_skin_tone 1F6B5-1F3FB-200D-2640-FE0F",
  "woman_mountain_biking_medium-dark_skin_tone 1F6B5-1F3FE-200D-2640-FE0F",
  "woman_mountain_biking_medium-light_skin_tone 1F6B5-1F3FC-200D-2640-FE0F",
  "woman_mountain_biking_medium_skin_tone 1F6B5-1F3FD-200D-2640-FE0F",
  "woman_office_worker 1F469-200D-1F4BC woman_office_worker_dark_skin_tone 1F469-1F3FF-200D-1F4BC",
  "woman_office_worker_light_skin_tone 1F469-1F3FB-200D-1F4BC",
  "woman_office_worker_medium-dark_skin_tone 1F469-1F3FE-200D-1F4BC",
  "woman_office_worker_medium-light_skin_tone 1F469-1F3FC-200D-1F4BC",
  "woman_office_worker_medium_skin_tone 1F469-1F3FD-200D-1F4BC woman_pilot 1F469-200D-2708-FE0F",
  "woman_pilot_dark_skin_tone 1F469-1F3FF-200D-2708-FE0F",
  "woman_pilot_light_skin_tone 1F469-1F3FB-200D-2708-FE0F",
  "woman_pilot_medium-dark_skin_tone 1F469-1F3FE-200D-2708-FE0F",
  "woman_pilot_medium-light_skin_tone 1F469-1F3FC-200D-2708-FE0F",
  "woman_pilot_medium_skin_tone 1F469-1F3FD-200D-2708-FE0F",
  "woman_playing_handball 1F93E-200D-2640-FE0F",
  "woman_playing_handball_dark_skin_tone 1F93E-1F3FF-200D-2640-FE0F",
  "woman_playing_handball_light_skin_tone 1F93E-1F3FB-200D-2640-FE0F",
  "woman_playing_handball_medium-dark_skin_tone 1F93E-1F3FE-200D-2640-FE0F",
  "woman_playing_handball_medium-light_skin_tone 1F93E-1F3FC-200D-2640-FE0F",
  "woman_playing_handball_medium_skin_tone 1F93E-1F3FD-200D-2640-FE0F",
  "woman_playing_water_polo 1F93D-200D-2640-FE0F",
  "woman_playing_water_polo_dark_skin_tone 1F93D-1F3FF-200D-2640-FE0F",
  "woman_playing_water_polo_light_skin_tone 1F93D-1F3FB-200D-2640-FE0F",
  "woman_playing_water_polo_medium-dark_skin_tone 1F93D-1F3FE-200D-2640-FE0F",
  "woman_playing_water_polo_medium-light_skin_tone 1F93D-1F3FC-200D-2640-FE0F",
  "woman_playing_water_polo_medium_skin_tone 1F93D-1F3FD-200D-2640-FE0F",
  "woman_police_officer 1F46E-200D-2640-FE0F",
  "woman_police_officer_dark_skin_tone 1F46E-1F3FF-200D-2640-FE0F",
  "woman_police_officer_light_skin_tone 1F46E-1F3FB-200D-2640-FE0F",
  "woman_police_officer_medium-dark_skin_tone 1F46E-1F3FE-200D-2640-FE0F",
  "woman_police_officer_medium-light_skin_tone 1F46E-1F3FC-200D-2640-FE0F",
  "woman_police_officer_medium_skin_tone 1F46E-1F3FD-200D-2640-FE0F",
  "woman_pouting 1F64E-200D-2640-FE0F woman_pouting_dark_skin_tone 1F64E-1F3FF-200D-2640-FE0F",
  "woman_pouting_light_skin_tone 1F64E-1F3FB-200D-2640-FE0F",
  "woman_pouting_medium-dark_skin_tone 1F64E-1F3FE-200D-2640-FE0F",
  "woman_pouting_medium-light_skin_tone 1F64E-1F3FC-200D-2640-FE0F",
  "woman_pouting_medium_skin_tone 1F64E-1F3FD-200D-2640-FE0F",
  "woman_raising_hand 1F64B-200D-2640-FE0F",
  "woman_raising_hand_dark_skin_tone 1F64B-1F3FF-200D-2640-FE0F",
  "woman_raising_hand_light_skin_tone 1F64B-1F3FB-200D-2640-FE0F",
  "woman_raising_hand_medium-dark_skin_tone 1F64B-1F3FE-200D-2640-FE0F",
  "woman_raising_hand_medium-light_skin_tone 1F64B-1F3FC-200D-2640-FE0F",
  "woman_raising_hand_medium_skin_tone 1F64B-1F3FD-200D-2640-FE0F",
  "woman_rowing_boat 1F6A3-200D-2640-FE0F",
  "woman_rowing_boat_dark_skin_tone 1F6A3-1F3FF-200D-2640-FE0F",
  "woman_rowing_boat_light_skin_tone 1F6A3-1F3FB-200D-2640-FE0F",
  "woman_rowing_boat_medium-dark_skin_tone 1F6A3-1F3FE-200D-2640-FE0F",
  "woman_rowing_boat_medium-light_skin_tone 1F6A3-1F3FC-200D-2640-FE0F",
  "woman_rowing_boat_medium_skin_tone 1F6A3-1F3FD-200D-2640-FE0F",
  "woman_running 1F3C3-200D-2640-FE0F woman_running_dark_skin_tone 1F3C3-1F3FF-200D-2640-FE0F",
  "woman_running_light_skin_tone 1F3C3-1F3FB-200D-2640-FE0F",
  "woman_running_medium-dark_skin_tone 1F3C3-1F3FE-200D-2640-FE0F",
  "woman_running_medium-light_skin_tone 1F3C3-1F3FC-200D-2640-FE0F",
  "woman_running_medium_skin_tone 1F3C3-1F3FD-200D-2640-FE0F woman_scientist 1F469-200D-1F52C",
  "woman_scientist_dark_skin_tone 1F469-1F3FF-200D-1F52C",
  "woman_scientist_light_skin_tone 1F469-1F3FB-200D-1F52C",
  "woman_scientist_medium-dark_skin_tone 1F469-1F3FE-200D-1F52C",
  "woman_scientist_medium-light_skin_tone 1F469-1F3FC-200D-1F52C",
  "woman_scientist_medium_skin_tone 1F469-1F3FD-200D-1F52C woman_shrugging 1F937-200D-2640-FE0F",
  "woman_shrugging_dark_skin_tone 1F937-1F3FF-200D-2640-FE0F",
  "woman_shrugging_light_skin_tone 1F937-1F3FB-200D-2640-FE0F",
  "woman_shrugging_medium-dark_skin_tone 1F937-1F3FE-200D-2640-FE0F",
  "woman_shrugging_medium-light_skin_tone 1F937-1F3FC-200D-2640-FE0F",
  "woman_shrugging_medium_skin_tone 1F937-1F3FD-200D-2640-FE0F woman_singer 1F469-200D-1F3A4",
  "woman_singer_dark_skin_tone 1F469-1F3FF-200D-1F3A4",
  "woman_singer_light_skin_tone 1F469-1F3FB-200D-1F3A4",
  "woman_singer_medium-dark_skin_tone 1F469-1F3FE-200D-1F3A4",
  "woman_singer_medium-light_skin_tone 1F469-1F3FC-200D-1F3A4",
  "woman_singer_medium_skin_tone 1F469-1F3FD-200D-1F3A4 woman_student 1F469-200D-1F393",
  "woman_student_dark_skin_tone 1F469-1F3FF-200D-1F393",
  "woman_student_light_skin_tone 1F469-1F3FB-200D-1F393",
  "woman_student_medium-dark_skin_tone 1F469-1F3FE-200D-1F393",
  "woman_student_medium-light_skin_tone 1F469-1F3FC-200D-1F393",
  "woman_student_medium_skin_tone 1F469-1F3FD-200D-1F393 woman_surfing 1F3C4-200D-2640-FE0F",
  "woman_surfing_dark_skin_tone 1F3C4-1F3FF-200D-2640-FE0F",
  "woman_surfing_light_skin_tone 1F3C4-1F3FB-200D-2640-FE0F",
  "woman_surfing_medium-dark_skin_tone 1F3C4-1F3FE-200D-2640-FE0F",
  "woman_surfing_medium-light_skin_tone 1F3C4-1F3FC-200D-2640-FE0F",
  "woman_surfing_medium_skin_tone 1F3C4-1F3FD-200D-2640-FE0F woman_swimming 1F3CA-200D-2640-FE0F",
  "woman_swimming_dark_skin_tone 1F3CA-1F3FF-200D-2640-FE0F",
  "woman_swimming_light_skin_tone 1F3CA-1F3FB-200D-2640-FE0F",
  "woman_swimming_medium-dark_skin_tone 1F3CA-1F3FE-200D-2640-FE0F",
  "woman_swimming_medium-light_skin_tone 1F3CA-1F3FC-200D-2640-FE0F",
  "woman_swimming_medium_skin_tone 1F3CA-1F3FD-200D-2640-FE0F woman_teacher 1F469-200D-1F3EB",
  "woman_teacher_dark_skin_tone 1F469-1F3FF-200D-1F3EB",
  "woman_teacher_light_skin_tone 1F469-1F3FB-200D-1F3EB",
  "woman_teacher_medium-dark_skin_tone 1F469-1F3FE-200D-1F3EB",
  "woman_teacher_medium-light_skin_tone 1F469-1F3FC-200D-1F3EB",
  "woman_teacher_medium_skin_tone 1F469-1F3FD-200D-1F3EB woman_technologist 1F469-200D-1F4BB",
  "woman_technologist_dark_skin_tone 1F469-1F3FF-200D-1F4BB",
  "woman_technologist_light_skin_tone 1F469-1F3FB-200D-1F4BB",
  "woman_technologist_medium-dark_skin_tone 1F469-1F3FE-200D-1F4BB",
  "woman_technologist_medium-light_skin_tone 1F469-1F3FC-200D-1F4BB",
  "woman_technologist_medium_skin_tone 1F469-1F3FD-200D-1F4BB",
  "woman_tipping_hand 1F481-200D-2640-FE0F",
  "woman_tipping_hand_dark_skin_tone 1F481-1F3FF-200D-2640-FE0F",
  "woman_tipping_hand_light_skin_tone 1F481-1F3FB-200D-2640-FE0F",
  "woman_tipping_hand_medium-dark_skin_tone 1F481-1F3FE-200D-2640-FE0F",
  "woman_tipping_hand_medium-light_skin_tone 1F481-1F3FC-200D-2640-FE0F",
  "woman_tipping_hand_medium_skin_tone 1F481-1F3FD-200D-2640-FE0F",
  "woman_vampire 1F9DB-200D-2640-FE0F woman_vampire_dark_skin_tone 1F9DB-1F3FF-200D-2640-FE0F",
  "woman_vampire_light_skin_tone 1F9DB-1F3FB-200D-2640-FE0F",
  "woman_vampire_medium-dark_skin_tone 1F9DB-1F3FE-200D-2640-FE0F",
  "woman_vampire_medium-light_skin_tone 1F9DB-1F3FC-200D-2640-FE0F",
  "woman_vampire_medium_skin_tone 1F9DB-1F3FD-200D-2640-FE0F woman_walking 1F6B6-200D-2640-FE0F",
  "woman_walking_dark_skin_tone 1F6B6-1F3FF-200D-2640-FE0F",
  "woman_walking_light_skin_tone 1F6B6-1F3FB-200D-2640-FE0F",
  "woman_walking_medium-dark_skin_tone 1F6B6-1F3FE-200D-2640-FE0F",
  "woman_walking_medium-light_skin_tone 1F6B6-1F3FC-200D-2640-FE0F",
  "woman_walking_medium_skin_tone 1F6B6-1F3FD-200D-2640-FE0F",
  "woman_wearing_turban 1F473-200D-2640-FE0F",
  "woman_wearing_turban_dark_skin_tone 1F473-1F3FF-200D-2640-FE0F",
  "woman_wearing_turban_light_skin_tone 1F473-1F3FB-200D-2640-FE0F",
  "woman_wearing_turban_medium-dark_skin_tone 1F473-1F3FE-200D-2640-FE0F",
  "woman_wearing_turban_medium-light_skin_tone 1F473-1F3FC-200D-2640-FE0F",
  "woman_wearing_turban_medium_skin_tone 1F473-1F3FD-200D-2640-FE0F woman_with_headscarf 1F9D5",
  "woman_with_headscarf_dark_skin_tone 1F9D5-1F3FF",
  "woman_with_headscarf_light_skin_tone 1F9D5-1F3FB",
  "woman_with_headscarf_medium-dark_skin_tone 1F9D5-1F3FE",
  "woman_with_headscarf_medium-light_skin_tone 1F9D5-1F3FC",
  "woman_with_headscarf_medium_skin_tone 1F9D5-1F3FD woman_with_probing_cane 1F469-200D-1F9AF",
  "woman_zombie 1F9DF-200D-2640-FE0F womans_clothes 1F45A womans_hat 1F452 woman’s_boot 1F462",
  "woman’s_clothes 1F45A woman’s_hat 1F452 woman’s_sandal 1F461",
  "women_with_bunny_ears 1F46F-200D-2640-FE0F women_wrestling 1F93C-200D-2640-FE0F womens 1F6BA",
  "women’s_room 1F6BA woozy_face 1F974 world_map 1F5FA worried 1F61F worried_face 1F61F",
  "wrapped_gift 1F381 wrench 1F527 writing_hand 270D writing_hand_dark_skin_tone 270D-1F3FF",
  "writing_hand_light_skin_tone 270D-1F3FB writing_hand_medium-dark_skin_tone 270D-1F3FE",
  "writing_hand_medium-light_skin_tone 270D-1F3FC writing_hand_medium_skin_tone 270D-1F3FD x 274C",
  "yarn 1F9F6 yawning_face 1F971 yellow_circle 1F7E1 yellow_heart 1F49B yellow_square 1F7E8",
  "yemen 1F1FE-1F1EA yen 1F4B4 yen_banknote 1F4B4 yin_yang 262F yo-yo 1FA80 yum 1F60B",
  "zambia 1F1FF-1F1F2 zany_face 1F92A zap 26A1 zebra 1F993 zero 30-FE0F-20E3 zimbabwe 1F1FF-1F1FC",
  "zipper-mouth_face 1F910 zipper__mouth_face 1F910 zombie 1F9DF zzz 1F4A4",
  "åland_islands 1F1E6-1F1FD"]

end PostSearch.Emoji
