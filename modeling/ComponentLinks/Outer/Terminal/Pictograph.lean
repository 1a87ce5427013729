/-!
# Names of pictographs

The short names under which pictographs can be written between colons.

## Main definitions

* `Terminal.pictographTable`: the names with their pictographs, as text.
* `Terminal.pictograph?`: the pictograph with a given name.
-/
namespace ComponentLinks.Terminal

def pictographTable : String := "1st_place_medal 🥇
2nd_place_medal 🥈\t3rd_place_medal 🥉\tab_button_(blood_type) 🆎\tatm_sign 🏧
a_button_(blood_type) 🅰\tafghanistan 🇦🇫\talbania 🇦🇱\talgeria 🇩🇿\tamerican_samoa 🇦🇸\tandorra 🇦🇩
angola 🇦🇴\tanguilla 🇦🇮\tantarctica 🇦🇶\tantigua_&_barbuda 🇦🇬\taquarius ♒\targentina 🇦🇷\taries ♈
armenia 🇦🇲\taruba 🇦🇼\tascension_island 🇦🇨\taustralia 🇦🇺\taustria 🇦🇹\tazerbaijan 🇦🇿\tback_arrow 🔙
b_button_(blood_type) 🅱\tbahamas 🇧🇸\tbahrain 🇧🇭\tbangladesh 🇧🇩\tbarbados 🇧🇧\tbelarus 🇧🇾
belgium 🇧🇪\tbelize 🇧🇿\tbenin 🇧🇯\tbermuda 🇧🇲\tbhutan 🇧🇹\tbolivia 🇧🇴\tbosnia_&_herzegovina 🇧🇦
botswana 🇧🇼\tbouvet_island 🇧🇻\tbrazil 🇧🇷\tbritish_indian_ocean_territory 🇮🇴
british_virgin_islands 🇻🇬\tbrunei 🇧🇳\tbulgaria 🇧🇬\tburkina_faso 🇧🇫\tburundi 🇧🇮\tcl_button 🆑
cool_button 🆒\tcambodia 🇰🇭\tcameroon 🇨🇲\tcanada 🇨🇦\tcanary_islands 🇮🇨\tcancer ♋\tcape_verde 🇨🇻
capricorn ♑\tcaribbean_netherlands 🇧🇶\tcayman_islands 🇰🇾\tcentral_african_republic 🇨🇫
ceuta_&_melilla 🇪🇦\tchad 🇹🇩\tchile 🇨🇱\tchina 🇨🇳\tchristmas_island 🇨🇽\tchristmas_tree 🎄
clipperton_island 🇨🇵\tcocos_(keeling)_islands 🇨🇨\tcolombia 🇨🇴\tcomoros 🇰🇲
congo_-_brazzaville 🇨🇬\tcongo_-_kinshasa 🇨🇩\tcook_islands 🇨🇰\tcosta_rica 🇨🇷\tcroatia 🇭🇷\tcuba 🇨🇺
curaçao 🇨🇼\tcyprus 🇨🇾\tczechia 🇨🇿\tcôte_d’ivoire 🇨🇮\tdenmark 🇩🇰\tdiego_garcia 🇩🇬\tdjibouti 🇩🇯
dominica 🇩🇲\tdominican_republic 🇩🇴\tend_arrow 🔚\tecuador 🇪🇨\tegypt 🇪🇬\tel_salvador 🇸🇻
england 🏴󠁧󠁢󠁥󠁮󠁧󠁿\tequatorial_guinea 🇬🇶\teritrea 🇪🇷\testonia 🇪🇪\tethiopia 🇪🇹\teuropean_union 🇪🇺
free_button 🆓\tfalkland_islands 🇫🇰\tfaroe_islands 🇫🇴\tfiji 🇫🇯\tfinland 🇫🇮\tfrance 🇫🇷
french_guiana 🇬🇫\tfrench_polynesia 🇵🇫\tfrench_southern_territories 🇹🇫\tgabon 🇬🇦\tgambia 🇬🇲
gemini ♊\tgeorgia 🇬🇪\tgermany 🇩🇪\tghana 🇬🇭\tgibraltar 🇬🇮\tgreece 🇬🇷\tgreenland 🇬🇱\tgrenada 🇬🇩
guadeloupe 🇬🇵\tguam 🇬🇺\tguatemala 🇬🇹\tguernsey 🇬🇬\tguinea 🇬🇳\tguinea-bissau 🇬🇼\tguyana 🇬🇾\thaiti 🇭🇹
heard_&_mcdonald_islands 🇭🇲\thonduras 🇭🇳\thong_kong_sar_china 🇭🇰\thungary 🇭🇺\tid_button 🆔
iceland 🇮🇸\tindia 🇮🇳\tindonesia 🇮🇩\tiran 🇮🇷\tiraq 🇮🇶\tireland 🇮🇪\tisle_of_man 🇮🇲\tisrael 🇮🇱
italy 🇮🇹\tjamaica 🇯🇲\tjapan 🗾\tjapanese_acceptable_button 🉑\tjapanese_application_button 🈸
japanese_bargain_button 🉐\tjapanese_castle 🏯\tjapanese_congratulations_button ㊗
japanese_discount_button 🈹\tjapanese_dolls 🎎\tjapanese_free_of_charge_button 🈚
japanese_here_button 🈁\tjapanese_monthly_amount_button 🈷\tjapanese_no_vacancy_button 🈵
japanese_not_free_of_charge_button 🈶\tjapanese_open_for_business_button 🈺
japanese_passing_grade_button 🈴\tjapanese_post_office 🏣\tjapanese_prohibited_button 🈲
japanese_reserved_button 🈯\tjapanese_secret_button ㊙\tjapanese_service_charge_button 🈂
japanese_symbol_for_beginner 🔰\tjapanese_vacancy_button 🈳\tjersey 🇯🇪\tjordan 🇯🇴\tkazakhstan 🇰🇿
kenya 🇰🇪\tkiribati 🇰🇮\tkosovo 🇽🇰\tkuwait 🇰🇼\tkyrgyzstan 🇰🇬\tlaos 🇱🇦\tlatvia 🇱🇻\tlebanon 🇱🇧\tleo ♌
lesotho 🇱🇸\tliberia 🇱🇷\tlibra ♎\tlibya 🇱🇾\tliechtenstein 🇱🇮\tlithuania 🇱🇹\tluxembourg 🇱🇺
macau_sar_china 🇲🇴\tmacedonia 🇲🇰\tmadagascar 🇲🇬\tmalawi 🇲🇼\tmalaysia 🇲🇾\tmaldives 🇲🇻\tmali 🇲🇱
malta 🇲🇹\tmarshall_islands 🇲🇭\tmartinique 🇲🇶\tmauritania 🇲🇷\tmauritius 🇲🇺\tmayotte 🇾🇹\tmexico 🇲🇽
micronesia 🇫🇲\tmoldova 🇲🇩\tmonaco 🇲🇨\tmongolia 🇲🇳\tmontenegro 🇲🇪\tmontserrat 🇲🇸\tmorocco 🇲🇦
mozambique 🇲🇿\tmrs._claus 🤶\tmrs._claus_dark_skin_tone 🤶🏿\tmrs._claus_light_skin_tone 🤶🏻
mrs._claus_medium-dark_skin_tone 🤶🏾\tmrs._claus_medium-light_skin_tone 🤶🏼
mrs._claus_medium_skin_tone 🤶🏽\tmyanmar_(burma) 🇲🇲\tnew_button 🆕\tng_button 🆖\tnamibia 🇳🇦
nauru 🇳🇷\tnepal 🇳🇵\tnetherlands 🇳🇱\tnew_caledonia 🇳🇨\tnew_zealand 🇳🇿\tnicaragua 🇳🇮\tniger 🇳🇪
nigeria 🇳🇬\tniue 🇳🇺\tnorfolk_island 🇳🇫\tnorth_korea 🇰🇵\tnorthern_mariana_islands 🇲🇵\tnorway 🇳🇴
ok_button 🆗\tok_hand 👌\tok_hand_dark_skin_tone 👌🏿\tok_hand_light_skin_tone 👌🏻
ok_hand_medium-dark_skin_tone 👌🏾\tok_hand_medium-light_skin_tone 👌🏼
ok_hand_medium_skin_tone 👌🏽\ton!_arrow 🔛\to_button_(blood_type) 🅾\toman 🇴🇲\tophiuchus ⛎
p_button 🅿\tpakistan 🇵🇰\tpalau 🇵🇼\tpalestinian_territories 🇵🇸\tpanama 🇵🇦\tpapua_new_guinea 🇵🇬
paraguay 🇵🇾\tperu 🇵🇪\tphilippines 🇵🇭\tpisces ♓\tpitcairn_islands 🇵🇳\tpoland 🇵🇱\tportugal 🇵🇹
puerto_rico 🇵🇷\tqatar 🇶🇦\tromania 🇷🇴\trussia 🇷🇺\trwanda 🇷🇼\tréunion 🇷🇪\tsoon_arrow 🔜\tsos_button 🆘
sagittarius ♐\tsamoa 🇼🇸\tsan_marino 🇸🇲\tsanta_claus 🎅\tsanta_claus_dark_skin_tone 🎅🏿
santa_claus_light_skin_tone 🎅🏻\tsanta_claus_medium-dark_skin_tone 🎅🏾
santa_claus_medium-light_skin_tone 🎅🏼\tsanta_claus_medium_skin_tone 🎅🏽\tsaudi_arabia 🇸🇦
scorpio ♏\tscotland 🏴󠁧󠁢󠁳󠁣󠁴󠁿\tsenegal 🇸🇳\tserbia 🇷🇸\tseychelles 🇸🇨\tsierra_leone 🇸🇱\tsingapore 🇸🇬
sint_maarten 🇸🇽\tslovakia 🇸🇰\tslovenia 🇸🇮\tsolomon_islands 🇸🇧\tsomalia 🇸🇴\tsouth_africa 🇿🇦
south_georgia_&_south_sandwich_islands 🇬🇸\tsouth_korea 🇰🇷\tsouth_sudan 🇸🇸\tspain 🇪🇸
sri_lanka 🇱🇰\tst._barthélemy 🇧🇱\tst._helena 🇸🇭\tst._kitts_&_nevis 🇰🇳\tst._lucia 🇱🇨\tst._martin 🇲🇫
st._pierre_&_miquelon 🇵🇲\tst._vincent_&_grenadines 🇻🇨\tstatue_of_liberty 🗽\tsudan 🇸🇩
suriname 🇸🇷\tsvalbard_&_jan_mayen 🇸🇯\tswaziland 🇸🇿\tsweden 🇸🇪\tswitzerland 🇨🇭\tsyria 🇸🇾
são_tomé_&_príncipe 🇸🇹\tt-rex 🦖\ttop_arrow 🔝\ttaiwan 🇹🇼\ttajikistan 🇹🇯\ttanzania 🇹🇿\ttaurus ♉
thailand 🇹🇭\ttimor-leste 🇹🇱\ttogo 🇹🇬\ttokelau 🇹🇰\ttokyo_tower 🗼\ttonga 🇹🇴\ttrinidad_&_tobago 🇹🇹
tristan_da_cunha 🇹🇦\ttunisia 🇹🇳\tturkey 🦃\tturkmenistan 🇹🇲\tturks_&_caicos_islands 🇹🇨\ttuvalu 🇹🇻
u.s._outlying_islands 🇺🇲\tu.s._virgin_islands 🇻🇮\tup!_button 🆙\tuganda 🇺🇬\tukraine 🇺🇦
united_arab_emirates 🇦🇪\tunited_kingdom 🇬🇧\tunited_nations 🇺🇳\tunited_states 🇺🇸\turuguay 🇺🇾
uzbekistan 🇺🇿\tvs_button 🆚\tvanuatu 🇻🇺\tvatican_city 🇻🇦\tvenezuela 🇻🇪\tvietnam 🇻🇳\tvirgo ♍
wales 🏴󠁧󠁢󠁷󠁬󠁳󠁿\twallis_&_futuna 🇼🇫\twestern_sahara 🇪🇭\tyemen 🇾🇪\tzambia 🇿🇲\tzimbabwe 🇿🇼\tabacus 🧮
adhesive_bandage 🩹\tadmission_tickets 🎟\tadult 🧑\tadult_dark_skin_tone 🧑🏿
adult_light_skin_tone 🧑🏻\tadult_medium-dark_skin_tone 🧑🏾\tadult_medium-light_skin_tone 🧑🏼
adult_medium_skin_tone 🧑🏽\taerial_tramway 🚡\tairplane ✈\tairplane_arrival 🛬
airplane_departure 🛫\talarm_clock ⏰\talembic ⚗\talien 👽\talien_monster 👾\tambulance 🚑
american_football 🏈\tamphora 🏺\tanchor ⚓\tanger_symbol 💢\tangry_face 😠\tangry_face_with_horns 👿
anguished_face 😧\tant 🐜\tantenna_bars 📶\tanxious_face_with_sweat 😰\tarticulated_lorry 🚛
artist_palette 🎨\tastonished_face 😲\tatom_symbol ⚛\tauto_rickshaw 🛺\tautomobile 🚗\tavocado 🥑
axe 🪓\tbaby 👶\tbaby_angel 👼\tbaby_angel_dark_skin_tone 👼🏿\tbaby_angel_light_skin_tone 👼🏻
baby_angel_medium-dark_skin_tone 👼🏾\tbaby_angel_medium-light_skin_tone 👼🏼
baby_angel_medium_skin_tone 👼🏽\tbaby_bottle 🍼\tbaby_chick 🐤\tbaby_dark_skin_tone 👶🏿
baby_light_skin_tone 👶🏻\tbaby_medium-dark_skin_tone 👶🏾\tbaby_medium-light_skin_tone 👶🏼
baby_medium_skin_tone 👶🏽\tbaby_symbol 🚼\tbackhand_index_pointing_down 👇
backhand_index_pointing_down_dark_skin_tone 👇🏿
backhand_index_pointing_down_light_skin_tone 👇🏻
backhand_index_pointing_down_medium-dark_skin_tone 👇🏾
backhand_index_pointing_down_medium-light_skin_tone 👇🏼
backhand_index_pointing_down_medium_skin_tone 👇🏽\tbackhand_index_pointing_left 👈
backhand_index_pointing_left_dark_skin_tone 👈🏿
backhand_index_pointing_left_light_skin_tone 👈🏻
backhand_index_pointing_left_medium-dark_skin_tone 👈🏾
backhand_index_pointing_left_medium-light_skin_tone 👈🏼
backhand_index_pointing_left_medium_skin_tone 👈🏽\tbackhand_index_pointing_right 👉
backhand_index_pointing_right_dark_skin_tone 👉🏿
backhand_index_pointing_right_light_skin_tone 👉🏻
backhand_index_pointing_right_medium-dark_skin_tone 👉🏾
backhand_index_pointing_right_medium-light_skin_tone 👉🏼
backhand_index_pointing_right_medium_skin_tone 👉🏽\tbackhand_index_pointing_up 👆
backhand_index_pointing_up_dark_skin_tone 👆🏿\tbackhand_index_pointing_up_light_skin_tone 👆🏻
backhand_index_pointing_up_medium-dark_skin_tone 👆🏾
backhand_index_pointing_up_medium-light_skin_tone 👆🏼
backhand_index_pointing_up_medium_skin_tone 👆🏽\tbacon 🥓\tbadger 🦡\tbadminton 🏸\tbagel 🥯
baggage_claim 🛄\tbaguette_bread 🥖\tbalance_scale ⚖\tbald 🦲\tbald_man 👨‍🦲\tbald_woman 👩‍🦲
ballet_shoes 🩰\tballoon 🎈\tballot_box_with_ballot 🗳\tballot_box_with_check ☑\tbanana 🍌\tbanjo 🪕
bank 🏦\tbar_chart 📊\tbarber_pole 💈\tbaseball ⚾\tbasket 🧺\tbasketball 🏀\tbat 🦇\tbathtub 🛁\tbattery 🔋
beach_with_umbrella 🏖\tbeaming_face_with_smiling_eyes 😁\tbear_face 🐻\tbearded_person 🧔
bearded_person_dark_skin_tone 🧔🏿\tbearded_person_light_skin_tone 🧔🏻
bearded_person_medium-dark_skin_tone 🧔🏾\tbearded_person_medium-light_skin_tone 🧔🏼
bearded_person_medium_skin_tone 🧔🏽\tbeating_heart 💓\tbed 🛏\tbeer_mug 🍺\tbell 🔔\tbell_with_slash 🔕
bellhop_bell 🛎\tbento_box 🍱\tbeverage_box 🧃\tbicycle 🚲\tbikini 👙\tbilled_cap 🧢\tbiohazard ☣\tbird 🐦
birthday_cake 🎂\tblack_circle ⚫\tblack_flag 🏴\tblack_heart 🖤\tblack_large_square ⬛
black_medium-small_square ◾\tblack_medium_square ◼\tblack_nib ✒\tblack_small_square ▪
black_square_button 🔲\tblond-haired_man 👱‍♂️\tblond-haired_man_dark_skin_tone 👱🏿‍♂️
blond-haired_man_light_skin_tone 👱🏻‍♂️\tblond-haired_man_medium-dark_skin_tone 👱🏾‍♂️
blond-haired_man_medium-light_skin_tone 👱🏼‍♂️\tblond-haired_man_medium_skin_tone 👱🏽‍♂️
blond-haired_person 👱\tblond-haired_person_dark_skin_tone 👱🏿
blond-haired_person_light_skin_tone 👱🏻\tblond-haired_person_medium-dark_skin_tone 👱🏾
blond-haired_person_medium-light_skin_tone 👱🏼\tblond-haired_person_medium_skin_tone 👱🏽
blond-haired_woman 👱‍♀️\tblond-haired_woman_dark_skin_tone 👱🏿‍♀️
blond-haired_woman_light_skin_tone 👱🏻‍♀️\tblond-haired_woman_medium-dark_skin_tone 👱🏾‍♀️
blond-haired_woman_medium-light_skin_tone 👱🏼‍♀️\tblond-haired_woman_medium_skin_tone 👱🏽‍♀️
blossom 🌼\tblowfish 🐡\tblue_book 📘\tblue_circle 🔵\tblue_heart 💙\tblue_square 🟦\tboar 🐗\tbomb 💣
bone 🦴\tbookmark 🔖\tbookmark_tabs 📑\tbooks 📚\tbottle_with_popping_cork 🍾\tbouquet 💐
bow_and_arrow 🏹\tbowl_with_spoon 🥣\tbowling 🎳\tboxing_glove 🥊\tboy 👦\tboy_dark_skin_tone 👦🏿
boy_light_skin_tone 👦🏻\tboy_medium-dark_skin_tone 👦🏾\tboy_medium-light_skin_tone 👦🏼
boy_medium_skin_tone 👦🏽\tbrain 🧠\tbread 🍞\tbreast-feeding 🤱\tbreast-feeding_dark_skin_tone 🤱🏿
breast-feeding_light_skin_tone 🤱🏻\tbreast-feeding_medium-dark_skin_tone 🤱🏾
breast-feeding_medium-light_skin_tone 🤱🏼\tbreast-feeding_medium_skin_tone 🤱🏽\tbrick 🧱
bride_with_veil 👰\tbride_with_veil_dark_skin_tone 👰🏿\tbride_with_veil_light_skin_tone 👰🏻
bride_with_veil_medium-dark_skin_tone 👰🏾\tbride_with_veil_medium-light_skin_tone 👰🏼
bride_with_veil_medium_skin_tone 👰🏽\tbridge_at_night 🌉\tbriefcase 💼\tbriefs 🩲\tbright_button 🔆
broccoli 🥦\tbroken_heart 💔\tbroom 🧹\tbrown_circle 🟤\tbrown_heart 🤎\tbrown_square 🟫\tbug 🐛
building_construction 🏗\tbullet_train 🚅\tburrito 🌯\tbus 🚌\tbus_stop 🚏\tbust_in_silhouette 👤
busts_in_silhouette 👥\tbutter 🧈\tbutterfly 🦋\tcactus 🌵\tcalendar 📆\tcall_me_hand 🤙
call_me_hand_dark_skin_tone 🤙🏿\tcall_me_hand_light_skin_tone 🤙🏻
call_me_hand_medium-dark_skin_tone 🤙🏾\tcall_me_hand_medium-light_skin_tone 🤙🏼
call_me_hand_medium_skin_tone 🤙🏽\tcamel 🐫\tcamera 📷\tcamera_with_flash 📸\tcamping 🏕\tcandle 🕯
candy 🍬\tcanned_food 🥫\tcanoe 🛶\tcard_file_box 🗃\tcard_index 📇\tcard_index_dividers 🗂
carousel_horse 🎠\tcarp_streamer 🎏\tcarrot 🥕\tcastle 🏰\tcat 🐱\tcat_face 🐱
cat_face_with_tears_of_joy 😹\tcat_face_with_wry_smile 😼\tchains ⛓\tchair 🪑\tchart_decreasing 📉
chart_increasing 📈\tchart_increasing_with_yen 💹\tcheese_wedge 🧀\tchequered_flag 🏁\tcherries 🍒
cherry_blossom 🌸\tchess_pawn ♟\tchestnut 🌰\tchicken 🐔\tchild 🧒\tchild_dark_skin_tone 🧒🏿
child_light_skin_tone 🧒🏻\tchild_medium-dark_skin_tone 🧒🏾\tchild_medium-light_skin_tone 🧒🏼
child_medium_skin_tone 🧒🏽\tchildren_crossing 🚸\tchipmunk 🐿\tchocolate_bar 🍫\tchopsticks 🥢
church ⛪\tcigarette 🚬\tcinema 🎦\tcircled_m Ⓜ\tcircus_tent 🎪\tcityscape 🏙\tcityscape_at_dusk 🌆
clamp 🗜\tclapper_board 🎬\tclapping_hands 👏\tclapping_hands_dark_skin_tone 👏🏿
clapping_hands_light_skin_tone 👏🏻\tclapping_hands_medium-dark_skin_tone 👏🏾
clapping_hands_medium-light_skin_tone 👏🏼\tclapping_hands_medium_skin_tone 👏🏽
classical_building 🏛\tclinking_beer_mugs 🍻\tclinking_glasses 🥂\tclipboard 📋
clockwise_vertical_arrows 🔃\tclosed_book 📕\tclosed_mailbox_with_lowered_flag 📪
closed_mailbox_with_raised_flag 📫\tclosed_umbrella 🌂\tcloud ☁\tcloud_with_lightning 🌩
cloud_with_lightning_and_rain ⛈\tcloud_with_rain 🌧\tcloud_with_snow 🌨\tclown_face 🤡\tclub_suit ♣
clutch_bag 👝\tcoat 🧥\tcocktail_glass 🍸\tcoconut 🥥\tcoffin ⚰\tcold_face 🥶\tcollision 💥\tcomet ☄
compass 🧭\tcomputer_disk 💽\tcomputer_mouse 🖱\tconfetti_ball 🎊\tconfounded_face 😖\tconfused_face 😕
construction 🚧\tconstruction_worker 👷\tconstruction_worker_dark_skin_tone 👷🏿
construction_worker_light_skin_tone 👷🏻\tconstruction_worker_medium-dark_skin_tone 👷🏾
construction_worker_medium-light_skin_tone 👷🏼\tconstruction_worker_medium_skin_tone 👷🏽
control_knobs 🎛\tconvenience_store 🏪\tcooked_rice 🍚\tcookie 🍪\tcooking 🍳\tcopyright ©
couch_and_lamp 🛋\tcounterclockwise_arrows_button 🔄\tcouple_with_heart 💑
couple_with_heart_man_man 👨‍❤️‍👨\tcouple_with_heart_woman_man 👩‍❤️‍👨
couple_with_heart_woman_woman 👩‍❤️‍👩\tcow 🐮\tcow_face 🐮\tcowboy_hat_face 🤠\tcrab 🦀\tcrayon 🖍
credit_card 💳\tcrescent_moon 🌙\tcricket 🦗\tcricket_game 🏏\tcrocodile 🐊\tcroissant 🥐\tcross_mark ❌
cross_mark_button ❎\tcrossed_fingers 🤞\tcrossed_fingers_dark_skin_tone 🤞🏿
crossed_fingers_light_skin_tone 🤞🏻\tcrossed_fingers_medium-dark_skin_tone 🤞🏾
crossed_fingers_medium-light_skin_tone 🤞🏼\tcrossed_fingers_medium_skin_tone 🤞🏽
crossed_flags 🎌\tcrossed_swords ⚔\tcrown 👑\tcrying_cat_face 😿\tcrying_face 😢\tcrystal_ball 🔮
cucumber 🥒\tcupcake 🧁\tcup_with_straw 🥤\tcurling_stone 🥌\tcurly_hair 🦱\tcurly-haired_man 👨‍🦱
curly-haired_woman 👩‍🦱\tcurly_loop ➰\tcurrency_exchange 💱\tcurry_rice 🍛\tcustard 🍮\tcustoms 🛃
cut_of_meat 🥩\tcyclone 🌀\tdagger 🗡\tdango 🍡\tdashing_away 💨\tdeaf_person 🧏\tdeciduous_tree 🌳
deer 🦌\tdelivery_truck 🚚\tdepartment_store 🏬\tderelict_house 🏚\tdesert 🏜\tdesert_island 🏝
desktop_computer 🖥\tdetective 🕵\tdetective_dark_skin_tone 🕵🏿\tdetective_light_skin_tone 🕵🏻
detective_medium-dark_skin_tone 🕵🏾\tdetective_medium-light_skin_tone 🕵🏼
detective_medium_skin_tone 🕵🏽\tdiamond_suit ♦\tdiamond_with_a_dot 💠\tdim_button 🔅\tdirect_hit 🎯
disappointed_face 😞\tdiving_mask 🤿\tdiya_lamp 🪔\tdizzy 💫\tdizzy_face 😵\tdna 🧬\tdog 🐶\tdog_face 🐶
dollar_banknote 💵\tdolphin 🐬\tdoor 🚪\tdotted_six-pointed_star 🔯\tdouble_curly_loop ➿
double_exclamation_mark ‼\tdoughnut 🍩\tdove 🕊\tdown-left_arrow ↙\tdown-right_arrow ↘
down_arrow ⬇\tdowncast_face_with_sweat 😓\tdownwards_button 🔽\tdragon 🐉\tdragon_face 🐲\tdress 👗
drooling_face 🤤\tdrop_of_blood 🩸\tdroplet 💧\tdrum 🥁\tduck 🦆\tdumpling 🥟\tdvd 📀\te-mail 📧\teagle 🦅
ear 👂\tear_dark_skin_tone 👂🏿\tear_light_skin_tone 👂🏻\tear_medium-dark_skin_tone 👂🏾
ear_medium-light_skin_tone 👂🏼\tear_medium_skin_tone 👂🏽\tear_of_corn 🌽\tear_with_hearing_aid 🦻
egg 🍳\teggplant 🍆\teight-pointed_star ✴\teight-spoked_asterisk ✳\teight-thirty 🕣\teight_o’clock 🕗
eject_button ⏏\telectric_plug 🔌\telephant 🐘\televen-thirty 🕦\televen_o’clock 🕚\telf 🧝
elf_dark_skin_tone 🧝🏿\telf_light_skin_tone 🧝🏻\telf_medium-dark_skin_tone 🧝🏾
elf_medium-light_skin_tone 🧝🏼\telf_medium_skin_tone 🧝🏽\tenvelope ✉\tenvelope_with_arrow 📩
euro_banknote 💶\tevergreen_tree 🌲\tewe 🐑\texclamation_mark ❗\texclamation_question_mark ⁉
exploding_head 🤯\texpressionless_face 😑\teye 👁\teye_in_speech_bubble 👁️‍🗨️\teyes 👀
face_blowing_a_kiss 😘\tface_savoring_food 😋\tface_screaming_in_fear 😱\tface_vomiting 🤮
face_with_hand_over_mouth 🤭\tface_with_head-bandage 🤕\tface_with_medical_mask 😷
face_with_monocle 🧐\tface_with_open_mouth 😮\tface_with_raised_eyebrow 🤨
face_with_rolling_eyes 🙄\tface_with_steam_from_nose 😤\tface_with_symbols_on_mouth 🤬
face_with_tears_of_joy 😂\tface_with_thermometer 🤒\tface_with_tongue 😛\tface_without_mouth 😶
factory 🏭\tfairy 🧚\tfairy_dark_skin_tone 🧚🏿\tfairy_light_skin_tone 🧚🏻
fairy_medium-dark_skin_tone 🧚🏾\tfairy_medium-light_skin_tone 🧚🏼\tfairy_medium_skin_tone 🧚🏽
falafel 🧆\tfallen_leaf 🍂\tfamily 👪\tfamily_man_boy 👨‍👦\tfamily_man_boy_boy 👨‍👦‍👦
family_man_girl 👨‍👧\tfamily_man_girl_boy 👨‍👧‍👦\tfamily_man_girl_girl 👨‍👧‍👧
family_man_man_boy 👨‍👨‍👦\tfamily_man_man_boy_boy 👨‍👨‍👦‍👦\tfamily_man_man_girl 👨‍👨‍👧
family_man_man_girl_boy 👨‍👨‍👧‍👦\tfamily_man_man_girl_girl 👨‍👨‍👧‍👧\tfamily_man_woman_boy 👨‍👩‍👦
family_man_woman_boy_boy 👨‍👩‍👦‍👦\tfamily_man_woman_girl 👨‍👩‍👧
family_man_woman_girl_boy 👨‍👩‍👧‍👦\tfamily_man_woman_girl_girl 👨‍👩‍👧‍👧\tfamily_woman_boy 👩‍👦
family_woman_boy_boy 👩‍👦‍👦\tfamily_woman_girl 👩‍👧\tfamily_woman_girl_boy 👩‍👧‍👦
family_woman_girl_girl 👩‍👧‍👧\tfamily_woman_woman_boy 👩‍👩‍👦\tfamily_woman_woman_boy_boy 👩‍👩‍👦‍👦
family_woman_woman_girl 👩‍👩‍👧\tfamily_woman_woman_girl_boy 👩‍👩‍👧‍👦
family_woman_woman_girl_girl 👩‍👩‍👧‍👧\tfast-forward_button ⏩\tfast_down_button ⏬
fast_reverse_button ⏪\tfast_up_button ⏫\tfax_machine 📠\tfearful_face 😨\tfemale_sign ♀
ferris_wheel 🎡\tferry ⛴\tfield_hockey 🏑\tfile_cabinet 🗄\tfile_folder 📁\tfilm_frames 🎞
film_projector 📽\tfire 🔥\tfire_extinguisher 🧯\tfirecracker 🧨\tfire_engine 🚒\tfireworks 🎆
first_quarter_moon 🌓\tfirst_quarter_moon_face 🌛\tfish 🐟\tfish_cake_with_swirl 🍥\tfishing_pole 🎣
five-thirty 🕠\tfive_o’clock 🕔\tflag_in_hole ⛳\tflamingo 🦩\tflashlight 🔦\tflat_shoe 🥿
fleur-de-lis ⚜\tflexed_biceps 💪\tflexed_biceps_dark_skin_tone 💪🏿
flexed_biceps_light_skin_tone 💪🏻\tflexed_biceps_medium-dark_skin_tone 💪🏾
flexed_biceps_medium-light_skin_tone 💪🏼\tflexed_biceps_medium_skin_tone 💪🏽\tfloppy_disk 💾
flower_playing_cards 🎴\tflushed_face 😳\tflying_disc 🥏\tflying_saucer 🛸\tfog 🌫\tfoggy 🌁
folded_hands 🙏\tfolded_hands_dark_skin_tone 🙏🏿\tfolded_hands_light_skin_tone 🙏🏻
folded_hands_medium-dark_skin_tone 🙏🏾\tfolded_hands_medium-light_skin_tone 🙏🏼
folded_hands_medium_skin_tone 🙏🏽\tfoot 🦶\tfootprints 👣\tfork_and_knife 🍴
fork_and_knife_with_plate 🍽\tfortune_cookie 🥠\tfountain ⛲\tfountain_pen 🖋\tfour-thirty 🕟
four_leaf_clover 🍀\tfour_o’clock 🕓\tfox_face 🦊\tframed_picture 🖼\tfrench_fries 🍟\tfried_shrimp 🍤
frog_face 🐸\tfront-facing_baby_chick 🐥\tfrowning_face ☹\tfrowning_face_with_open_mouth 😦
fuel_pump ⛽\tfull_moon 🌕\tfull_moon_face 🌝\tfuneral_urn ⚱\tgame_die 🎲\tgarlic 🧄\tgear ⚙
gem_stone 💎\tgenie 🧞\tghost 👻\tgiraffe 🦒\tgirl 👧\tgirl_dark_skin_tone 👧🏿\tgirl_light_skin_tone 👧🏻
girl_medium-dark_skin_tone 👧🏾\tgirl_medium-light_skin_tone 👧🏼\tgirl_medium_skin_tone 👧🏽
glass_of_milk 🥛\tglasses 👓\tglobe_showing_americas 🌎\tglobe_showing_asia-australia 🌏
globe_showing_europe-africa 🌍\tglobe_with_meridians 🌐\tgloves 🧤\tglowing_star 🌟\tgoal_net 🥅
goat 🐐\tgoblin 👺\tgoggles 🥽\tgorilla 🦍\tgraduation_cap 🎓\tgrapes 🍇\tgreen_apple 🍏\tgreen_book 📗
green_circle 🟢\tgreen_heart 💚\tgreen_salad 🥗\tgreen_square 🟩\tgrimacing_face 😬
grinning_cat_face 😺\tgrinning_cat_face_with_smiling_eyes 😸\tgrinning_face 😀
grinning_face_with_big_eyes 😃\tgrinning_face_with_smiling_eyes 😄\tgrinning_face_with_sweat 😅
grinning_squinting_face 😆\tgrowing_heart 💗\tguard 💂\tguard_dark_skin_tone 💂🏿
guard_light_skin_tone 💂🏻\tguard_medium-dark_skin_tone 💂🏾\tguard_medium-light_skin_tone 💂🏼
guard_medium_skin_tone 💂🏽\tguide_dog 🦮\tguitar 🎸\thamburger 🍔\thammer 🔨\thammer_and_pick ⚒
hammer_and_wrench 🛠\thamster_face 🐹\thand_with_fingers_splayed 🖐
hand_with_fingers_splayed_dark_skin_tone 🖐🏿\thand_with_fingers_splayed_light_skin_tone 🖐🏻
hand_with_fingers_splayed_medium-dark_skin_tone 🖐🏾
hand_with_fingers_splayed_medium-light_skin_tone 🖐🏼
hand_with_fingers_splayed_medium_skin_tone 🖐🏽\thandbag 👜\thandshake 🤝\thatching_chick 🐣
headphone 🎧\thear-no-evil_monkey 🙉\theart_decoration 💟\theart_suit ♥\theart_with_arrow 💘
heart_with_ribbon 💝\theavy_check_mark ✔\theavy_division_sign ➗\theavy_dollar_sign 💲
heavy_heart_exclamation ❣\theavy_large_circle ⭕\theavy_minus_sign ➖\theavy_multiplication_x ✖
heavy_plus_sign ➕\thedgehog 🦔\thelicopter 🚁\therb 🌿\thibiscus 🌺\thigh-heeled_shoe 👠
high-speed_train 🚄\thigh_voltage ⚡\thiking_boot 🥾\thindu_temple 🛕\thippopotamus 🦛\thole 🕳
honey_pot 🍯\thoneybee 🐝\thorizontal_traffic_light 🚥\thorse 🐴\thorse_face 🐴\thorse_racing 🏇
horse_racing_dark_skin_tone 🏇🏿\thorse_racing_light_skin_tone 🏇🏻
horse_racing_medium-dark_skin_tone 🏇🏾\thorse_racing_medium-light_skin_tone 🏇🏼
horse_racing_medium_skin_tone 🏇🏽\thospital 🏥\thot_beverage ☕\thot_dog 🌭\thot_face 🥵\thot_pepper 🌶
hot_springs ♨\thotel 🏨\thourglass_done ⌛\thourglass_not_done ⏳\thouse 🏠\thouse_with_garden 🏡
houses 🏘\thugging_face 🤗\thundred_points 💯\thushed_face 😯\tice 🧊\tice_cream 🍨\tice_hockey 🏒
ice_skate ⛸\tinbox_tray 📥\tincoming_envelope 📨\tindex_pointing_up ☝
index_pointing_up_dark_skin_tone ☝🏿\tindex_pointing_up_light_skin_tone ☝🏻
index_pointing_up_medium-dark_skin_tone ☝🏾\tindex_pointing_up_medium-light_skin_tone ☝🏼
index_pointing_up_medium_skin_tone ☝🏽\tinfinity ♾\tinformation ℹ\tinput_latin_letters 🔤
input_latin_lowercase 🔡\tinput_latin_uppercase 🔠\tinput_numbers 🔢\tinput_symbols 🔣
jack-o-lantern 🎃\tjeans 👖\tjigsaw 🧩\tjoker 🃏\tjoystick 🕹\tkaaba 🕋\tkangaroo 🦘\tkey 🔑\tkeyboard ⌨
keycap_# #️⃣\tkeycap_* *️⃣\tkeycap_0 0️⃣\tkeycap_1 1️⃣\tkeycap_10 🔟\tkeycap_2 2️⃣\tkeycap_3 3️⃣
keycap_4 4️⃣\tkeycap_5 5️⃣\tkeycap_6 6️⃣\tkeycap_7 7️⃣\tkeycap_8 8️⃣\tkeycap_9 9️⃣\tkick_scooter 🛴
kimono 👘\tkiss 💋\tkiss_man_man 👨‍❤️‍💋‍👨\tkiss_mark 💋\tkiss_woman_man 👩‍❤️‍💋‍👨
kiss_woman_woman 👩‍❤️‍💋‍👩\tkissing_cat_face 😽\tkissing_face 😗\tkissing_face_with_closed_eyes 😚
kissing_face_with_smiling_eyes 😙\tkitchen_knife 🔪\tkite 🪁\tkiwi_fruit 🥝\tkoala 🐨\tlab_coat 🥼
label 🏷\tlacrosse 🥍\tlady_beetle 🐞\tlaptop_computer 💻\tlarge_blue_diamond 🔷
large_orange_diamond 🔶\tlast_quarter_moon 🌗\tlast_quarter_moon_face 🌜\tlast_track_button ⏮
latin_cross ✝\tleaf_fluttering_in_wind 🍃\tleafy_green 🥬\tledger 📒\tleft-facing_fist 🤛
left-facing_fist_dark_skin_tone 🤛🏿\tleft-facing_fist_light_skin_tone 🤛🏻
left-facing_fist_medium-dark_skin_tone 🤛🏾\tleft-facing_fist_medium-light_skin_tone 🤛🏼
left-facing_fist_medium_skin_tone 🤛🏽\tleft-right_arrow ↔\tleft_arrow ⬅
left_arrow_curving_right ↪\tleft_luggage 🛅\tleft_speech_bubble 🗨\tleg 🦵\tlemon 🍋\tleopard 🐆
level_slider 🎚\tlight_bulb 💡\tlight_rail 🚈\tlink 🔗\tlinked_paperclips 🖇\tlion_face 🦁\tlipstick 💄
litter_in_bin_sign 🚮\tlizard 🦎\tllama 🦙\tlobster 🦞\tlocked 🔒\tlocked_with_key 🔐\tlocked_with_pen 🔏
locomotive 🚂\tlollipop 🍭\tlotion_bottle 🧴\tloudly_crying_face 😭\tloudspeaker 📢
love-you_gesture 🤟\tlove-you_gesture_dark_skin_tone 🤟🏿\tlove-you_gesture_light_skin_tone 🤟🏻
love-you_gesture_medium-dark_skin_tone 🤟🏾\tlove-you_gesture_medium-light_skin_tone 🤟🏼
love-you_gesture_medium_skin_tone 🤟🏽\tlove_hotel 🏩\tlove_letter 💌\tluggage 🧳\tlying_face 🤥
mage 🧙\tmage_dark_skin_tone 🧙🏿\tmage_light_skin_tone 🧙🏻\tmage_medium-dark_skin_tone 🧙🏾
mage_medium-light_skin_tone 🧙🏼\tmage_medium_skin_tone 🧙🏽\tmagnet 🧲
magnifying_glass_tilted_left 🔍\tmagnifying_glass_tilted_right 🔎\tmahjong_red_dragon 🀄
male_sign ♂\tman 👨\tman_and_woman_holding_hands 👫\tman_artist 👨‍🎨
man_artist_dark_skin_tone 👨🏿‍🎨\tman_artist_light_skin_tone 👨🏻‍🎨
man_artist_medium-dark_skin_tone 👨🏾‍🎨\tman_artist_medium-light_skin_tone 👨🏼‍🎨
man_artist_medium_skin_tone 👨🏽‍🎨\tman_astronaut 👨‍🚀\tman_astronaut_dark_skin_tone 👨🏿‍🚀
man_astronaut_light_skin_tone 👨🏻‍🚀\tman_astronaut_medium-dark_skin_tone 👨🏾‍🚀
man_astronaut_medium-light_skin_tone 👨🏼‍🚀\tman_astronaut_medium_skin_tone 👨🏽‍🚀
man_biking 🚴‍♂️\tman_biking_dark_skin_tone 🚴🏿‍♂️\tman_biking_light_skin_tone 🚴🏻‍♂️
man_biking_medium-dark_skin_tone 🚴🏾‍♂️\tman_biking_medium-light_skin_tone 🚴🏼‍♂️
man_biking_medium_skin_tone 🚴🏽‍♂️\tman_bouncing_ball ⛹️‍♂️
man_bouncing_ball_dark_skin_tone ⛹🏿‍♂️\tman_bouncing_ball_light_skin_tone ⛹🏻‍♂️
man_bouncing_ball_medium-dark_skin_tone ⛹🏾‍♂️\tman_bouncing_ball_medium-light_skin_tone ⛹🏼‍♂️
man_bouncing_ball_medium_skin_tone ⛹🏽‍♂️\tman_bowing 🙇‍♂️\tman_bowing_dark_skin_tone 🙇🏿‍♂️
man_bowing_light_skin_tone 🙇🏻‍♂️\tman_bowing_medium-dark_skin_tone 🙇🏾‍♂️
man_bowing_medium-light_skin_tone 🙇🏼‍♂️\tman_bowing_medium_skin_tone 🙇🏽‍♂️
man_cartwheeling 🤸‍♂️\tman_cartwheeling_dark_skin_tone 🤸🏿‍♂️
man_cartwheeling_light_skin_tone 🤸🏻‍♂️\tman_cartwheeling_medium-dark_skin_tone 🤸🏾‍♂️
man_cartwheeling_medium-light_skin_tone 🤸🏼‍♂️\tman_cartwheeling_medium_skin_tone 🤸🏽‍♂️
man_climbing 🧗‍♂️\tman_climbing_dark_skin_tone 🧗🏿‍♂️\tman_climbing_light_skin_tone 🧗🏻‍♂️
man_climbing_medium-dark_skin_tone 🧗🏾‍♂️\tman_climbing_medium-light_skin_tone 🧗🏼‍♂️
man_climbing_medium_skin_tone 🧗🏽‍♂️\tman_construction_worker 👷‍♂️
man_construction_worker_dark_skin_tone 👷🏿‍♂️\tman_construction_worker_light_skin_tone 👷🏻‍♂️
man_construction_worker_medium-dark_skin_tone 👷🏾‍♂️
man_construction_worker_medium-light_skin_tone 👷🏼‍♂️
man_construction_worker_medium_skin_tone 👷🏽‍♂️\tman_cook 👨‍🍳\tman_cook_dark_skin_tone 👨🏿‍🍳
man_cook_light_skin_tone 👨🏻‍🍳\tman_cook_medium-dark_skin_tone 👨🏾‍🍳
man_cook_medium-light_skin_tone 👨🏼‍🍳\tman_cook_medium_skin_tone 👨🏽‍🍳\tman_dancing 🕺
man_dancing_dark_skin_tone 🕺🏿\tman_dancing_light_skin_tone 🕺🏻
man_dancing_medium-dark_skin_tone 🕺🏾\tman_dancing_medium-light_skin_tone 🕺🏼
man_dancing_medium_skin_tone 🕺🏽\tman_dark_skin_tone 👨🏿\tman_detective 🕵️‍♂️
man_detective_dark_skin_tone 🕵🏿‍♂️\tman_detective_light_skin_tone 🕵🏻‍♂️
man_detective_medium-dark_skin_tone 🕵🏾‍♂️\tman_detective_medium-light_skin_tone 🕵🏼‍♂️
man_detective_medium_skin_tone 🕵🏽‍♂️\tman_elf 🧝‍♂️\tman_elf_dark_skin_tone 🧝🏿‍♂️
man_elf_light_skin_tone 🧝🏻‍♂️\tman_elf_medium-dark_skin_tone 🧝🏾‍♂️
man_elf_medium-light_skin_tone 🧝🏼‍♂️\tman_elf_medium_skin_tone 🧝🏽‍♂️\tman_facepalming 🤦‍♂️
man_facepalming_dark_skin_tone 🤦🏿‍♂️\tman_facepalming_light_skin_tone 🤦🏻‍♂️
man_facepalming_medium-dark_skin_tone 🤦🏾‍♂️\tman_facepalming_medium-light_skin_tone 🤦🏼‍♂️
man_facepalming_medium_skin_tone 🤦🏽‍♂️\tman_factory_worker 👨‍🏭
man_factory_worker_dark_skin_tone 👨🏿‍🏭\tman_factory_worker_light_skin_tone 👨🏻‍🏭
man_factory_worker_medium-dark_skin_tone 👨🏾‍🏭\tman_factory_worker_medium-light_skin_tone 👨🏼‍🏭
man_factory_worker_medium_skin_tone 👨🏽‍🏭\tman_fairy 🧚‍♂️\tman_fairy_dark_skin_tone 🧚🏿‍♂️
man_fairy_light_skin_tone 🧚🏻‍♂️\tman_fairy_medium-dark_skin_tone 🧚🏾‍♂️
man_fairy_medium-light_skin_tone 🧚🏼‍♂️\tman_fairy_medium_skin_tone 🧚🏽‍♂️\tman_farmer 👨‍🌾
man_farmer_dark_skin_tone 👨🏿‍🌾\tman_farmer_light_skin_tone 👨🏻‍🌾
man_farmer_medium-dark_skin_tone 👨🏾‍🌾\tman_farmer_medium-light_skin_tone 👨🏼‍🌾
man_farmer_medium_skin_tone 👨🏽‍🌾\tman_firefighter 👨‍🚒\tman_firefighter_dark_skin_tone 👨🏿‍🚒
man_firefighter_light_skin_tone 👨🏻‍🚒\tman_firefighter_medium-dark_skin_tone 👨🏾‍🚒
man_firefighter_medium-light_skin_tone 👨🏼‍🚒\tman_firefighter_medium_skin_tone 👨🏽‍🚒
man_frowning 🙍‍♂️\tman_frowning_dark_skin_tone 🙍🏿‍♂️\tman_frowning_light_skin_tone 🙍🏻‍♂️
man_frowning_medium-dark_skin_tone 🙍🏾‍♂️\tman_frowning_medium-light_skin_tone 🙍🏼‍♂️
man_frowning_medium_skin_tone 🙍🏽‍♂️\tman_genie 🧞‍♂️\tman_gesturing_no 🙅‍♂️
man_gesturing_no_dark_skin_tone 🙅🏿‍♂️\tman_gesturing_no_light_skin_tone 🙅🏻‍♂️
man_gesturing_no_medium-dark_skin_tone 🙅🏾‍♂️\tman_gesturing_no_medium-light_skin_tone 🙅🏼‍♂️
man_gesturing_no_medium_skin_tone 🙅🏽‍♂️\tman_gesturing_ok 🙆‍♂️
man_gesturing_ok_dark_skin_tone 🙆🏿‍♂️\tman_gesturing_ok_light_skin_tone 🙆🏻‍♂️
man_gesturing_ok_medium-dark_skin_tone 🙆🏾‍♂️\tman_gesturing_ok_medium-light_skin_tone 🙆🏼‍♂️
man_gesturing_ok_medium_skin_tone 🙆🏽‍♂️\tman_getting_haircut 💇‍♂️
man_getting_haircut_dark_skin_tone 💇🏿‍♂️\tman_getting_haircut_light_skin_tone 💇🏻‍♂️
man_getting_haircut_medium-dark_skin_tone 💇🏾‍♂️
man_getting_haircut_medium-light_skin_tone 💇🏼‍♂️\tman_getting_haircut_medium_skin_tone 💇🏽‍♂️
man_getting_massage 💆‍♂️\tman_getting_massage_dark_skin_tone 💆🏿‍♂️
man_getting_massage_light_skin_tone 💆🏻‍♂️\tman_getting_massage_medium-dark_skin_tone 💆🏾‍♂️
man_getting_massage_medium-light_skin_tone 💆🏼‍♂️\tman_getting_massage_medium_skin_tone 💆🏽‍♂️
man_golfing 🏌️‍♂️\tman_golfing_dark_skin_tone 🏌🏿‍♂️\tman_golfing_light_skin_tone 🏌🏻‍♂️
man_golfing_medium-dark_skin_tone 🏌🏾‍♂️\tman_golfing_medium-light_skin_tone 🏌🏼‍♂️
man_golfing_medium_skin_tone 🏌🏽‍♂️\tman_guard 💂‍♂️\tman_guard_dark_skin_tone 💂🏿‍♂️
man_guard_light_skin_tone 💂🏻‍♂️\tman_guard_medium-dark_skin_tone 💂🏾‍♂️
man_guard_medium-light_skin_tone 💂🏼‍♂️\tman_guard_medium_skin_tone 💂🏽‍♂️
man_health_worker 👨‍⚕️\tman_health_worker_dark_skin_tone 👨🏿‍⚕️
man_health_worker_light_skin_tone 👨🏻‍⚕️\tman_health_worker_medium-dark_skin_tone 👨🏾‍⚕️
man_health_worker_medium-light_skin_tone 👨🏼‍⚕️\tman_health_worker_medium_skin_tone 👨🏽‍⚕️
man_in_lotus_position 🧘‍♂️\tman_in_lotus_position_dark_skin_tone 🧘🏿‍♂️
man_in_lotus_position_light_skin_tone 🧘🏻‍♂️
man_in_lotus_position_medium-dark_skin_tone 🧘🏾‍♂️
man_in_lotus_position_medium-light_skin_tone 🧘🏼‍♂️
man_in_lotus_position_medium_skin_tone 🧘🏽‍♂️\tman_in_manual_wheelchair 👨‍🦽
man_in_motorized_wheelchair 👨‍🦼\tman_in_steamy_room 🧖‍♂️
man_in_steamy_room_dark_skin_tone 🧖🏿‍♂️\tman_in_steamy_room_light_skin_tone 🧖🏻‍♂️
man_in_steamy_room_medium-dark_skin_tone 🧖🏾‍♂️
man_in_steamy_room_medium-light_skin_tone 🧖🏼‍♂️\tman_in_steamy_room_medium_skin_tone 🧖🏽‍♂️
man_in_suit_levitating 🕴\tman_in_suit_levitating_dark_skin_tone 🕴🏿
man_in_suit_levitating_light_skin_tone 🕴🏻\tman_in_suit_levitating_medium-dark_skin_tone 🕴🏾
man_in_suit_levitating_medium-light_skin_tone 🕴🏼\tman_in_suit_levitating_medium_skin_tone 🕴🏽
man_in_tuxedo 🤵\tman_in_tuxedo_dark_skin_tone 🤵🏿\tman_in_tuxedo_light_skin_tone 🤵🏻
man_in_tuxedo_medium-dark_skin_tone 🤵🏾\tman_in_tuxedo_medium-light_skin_tone 🤵🏼
man_in_tuxedo_medium_skin_tone 🤵🏽\tman_judge 👨‍⚖️\tman_judge_dark_skin_tone 👨🏿‍⚖️
man_judge_light_skin_tone 👨🏻‍⚖️\tman_judge_medium-dark_skin_tone 👨🏾‍⚖️
man_judge_medium-light_skin_tone 👨🏼‍⚖️\tman_judge_medium_skin_tone 👨🏽‍⚖️\tman_juggling 🤹‍♂️
man_juggling_dark_skin_tone 🤹🏿‍♂️\tman_juggling_light_skin_tone 🤹🏻‍♂️
man_juggling_medium-dark_skin_tone 🤹🏾‍♂️\tman_juggling_medium-light_skin_tone 🤹🏼‍♂️
man_juggling_medium_skin_tone 🤹🏽‍♂️\tman_lifting_weights 🏋️‍♂️
man_lifting_weights_dark_skin_tone 🏋🏿‍♂️\tman_lifting_weights_light_skin_tone 🏋🏻‍♂️
man_lifting_weights_medium-dark_skin_tone 🏋🏾‍♂️
man_lifting_weights_medium-light_skin_tone 🏋🏼‍♂️\tman_lifting_weights_medium_skin_tone 🏋🏽‍♂️
man_light_skin_tone 👨🏻\tman_mage 🧙‍♂️\tman_mage_dark_skin_tone 🧙🏿‍♂️
man_mage_light_skin_tone 🧙🏻‍♂️\tman_mage_medium-dark_skin_tone 🧙🏾‍♂️
man_mage_medium-light_skin_tone 🧙🏼‍♂️\tman_mage_medium_skin_tone 🧙🏽‍♂️\tman_mechanic 👨‍🔧
man_mechanic_dark_skin_tone 👨🏿‍🔧\tman_mechanic_light_skin_tone 👨🏻‍🔧
man_mechanic_medium-dark_skin_tone 👨🏾‍🔧\tman_mechanic_medium-light_skin_tone 👨🏼‍🔧
man_mechanic_medium_skin_tone 👨🏽‍🔧\tman_medium-dark_skin_tone 👨🏾
man_medium-light_skin_tone 👨🏼\tman_medium_skin_tone 👨🏽\tman_mountain_biking 🚵‍♂️
man_mountain_biking_dark_skin_tone 🚵🏿‍♂️\tman_mountain_biking_light_skin_tone 🚵🏻‍♂️
man_mountain_biking_medium-dark_skin_tone 🚵🏾‍♂️
man_mountain_biking_medium-light_skin_tone 🚵🏼‍♂️\tman_mountain_biking_medium_skin_tone 🚵🏽‍♂️
man_office_worker 👨‍💼\tman_office_worker_dark_skin_tone 👨🏿‍💼
man_office_worker_light_skin_tone 👨🏻‍💼\tman_office_worker_medium-dark_skin_tone 👨🏾‍💼
man_office_worker_medium-light_skin_tone 👨🏼‍💼\tman_office_worker_medium_skin_tone 👨🏽‍💼
man_pilot 👨‍✈️\tman_pilot_dark_skin_tone 👨🏿‍✈️\tman_pilot_light_skin_tone 👨🏻‍✈️
man_pilot_medium-dark_skin_tone 👨🏾‍✈️\tman_pilot_medium-light_skin_tone 👨🏼‍✈️
man_pilot_medium_skin_tone 👨🏽‍✈️\tman_playing_handball 🤾‍♂️
man_playing_handball_dark_skin_tone 🤾🏿‍♂️\tman_playing_handball_light_skin_tone 🤾🏻‍♂️
man_playing_handball_medium-dark_skin_tone 🤾🏾‍♂️
man_playing_handball_medium-light_skin_tone 🤾🏼‍♂️
man_playing_handball_medium_skin_tone 🤾🏽‍♂️\tman_playing_water_polo 🤽‍♂️
man_playing_water_polo_dark_skin_tone 🤽🏿‍♂️\tman_playing_water_polo_light_skin_tone 🤽🏻‍♂️
man_playing_water_polo_medium-dark_skin_tone 🤽🏾‍♂️
man_playing_water_polo_medium-light_skin_tone 🤽🏼‍♂️
man_playing_water_polo_medium_skin_tone 🤽🏽‍♂️\tman_police_officer 👮‍♂️
man_police_officer_dark_skin_tone 👮🏿‍♂️\tman_police_officer_light_skin_tone 👮🏻‍♂️
man_police_officer_medium-dark_skin_tone 👮🏾‍♂️
man_police_officer_medium-light_skin_tone 👮🏼‍♂️\tman_police_officer_medium_skin_tone 👮🏽‍♂️
man_pouting 🙎‍♂️\tman_pouting_dark_skin_tone 🙎🏿‍♂️\tman_pouting_light_skin_tone 🙎🏻‍♂️
man_pouting_medium-dark_skin_tone 🙎🏾‍♂️\tman_pouting_medium-light_skin_tone 🙎🏼‍♂️
man_pouting_medium_skin_tone 🙎🏽‍♂️\tman_raising_hand 🙋‍♂️
man_raising_hand_dark_skin_tone 🙋🏿‍♂️\tman_raising_hand_light_skin_tone 🙋🏻‍♂️
man_raising_hand_medium-dark_skin_tone 🙋🏾‍♂️\tman_raising_hand_medium-light_skin_tone 🙋🏼‍♂️
man_raising_hand_medium_skin_tone 🙋🏽‍♂️\tman_rowing_boat 🚣‍♂️
man_rowing_boat_dark_skin_tone 🚣🏿‍♂️\tman_rowing_boat_light_skin_tone 🚣🏻‍♂️
man_rowing_boat_medium-dark_skin_tone 🚣🏾‍♂️\tman_rowing_boat_medium-light_skin_tone 🚣🏼‍♂️
man_rowing_boat_medium_skin_tone 🚣🏽‍♂️\tman_running 🏃‍♂️\tman_running_dark_skin_tone 🏃🏿‍♂️
man_running_light_skin_tone 🏃🏻‍♂️\tman_running_medium-dark_skin_tone 🏃🏾‍♂️
man_running_medium-light_skin_tone 🏃🏼‍♂️\tman_running_medium_skin_tone 🏃🏽‍♂️
man_scientist 👨‍🔬\tman_scientist_dark_skin_tone 👨🏿‍🔬\tman_scientist_light_skin_tone 👨🏻‍🔬
man_scientist_medium-dark_skin_tone 👨🏾‍🔬\tman_scientist_medium-light_skin_tone 👨🏼‍🔬
man_scientist_medium_skin_tone 👨🏽‍🔬\tman_shrugging 🤷‍♂️\tman_shrugging_dark_skin_tone 🤷🏿‍♂️
man_shrugging_light_skin_tone 🤷🏻‍♂️\tman_shrugging_medium-dark_skin_tone 🤷🏾‍♂️
man_shrugging_medium-light_skin_tone 🤷🏼‍♂️\tman_shrugging_medium_skin_tone 🤷🏽‍♂️
man_singer 👨‍🎤\tman_singer_dark_skin_tone 👨🏿‍🎤\tman_singer_light_skin_tone 👨🏻‍🎤
man_singer_medium-dark_skin_tone 👨🏾‍🎤\tman_singer_medium-light_skin_tone 👨🏼‍🎤
man_singer_medium_skin_tone 👨🏽‍🎤\tman_student 👨‍🎓\tman_student_dark_skin_tone 👨🏿‍🎓
man_student_light_skin_tone 👨🏻‍🎓\tman_student_medium-dark_skin_tone 👨🏾‍🎓
man_student_medium-light_skin_tone 👨🏼‍🎓\tman_student_medium_skin_tone 👨🏽‍🎓\tman_surfing 🏄‍♂️
man_surfing_dark_skin_tone 🏄🏿‍♂️\tman_surfing_light_skin_tone 🏄🏻‍♂️
man_surfing_medium-dark_skin_tone 🏄🏾‍♂️\tman_surfing_medium-light_skin_tone 🏄🏼‍♂️
man_surfing_medium_skin_tone 🏄🏽‍♂️\tman_swimming 🏊‍♂️\tman_swimming_dark_skin_tone 🏊🏿‍♂️
man_swimming_light_skin_tone 🏊🏻‍♂️\tman_swimming_medium-dark_skin_tone 🏊🏾‍♂️
man_swimming_medium-light_skin_tone 🏊🏼‍♂️\tman_swimming_medium_skin_tone 🏊🏽‍♂️
man_teacher 👨‍🏫\tman_teacher_dark_skin_tone 👨🏿‍🏫\tman_teacher_light_skin_tone 👨🏻‍🏫
man_teacher_medium-dark_skin_tone 👨🏾‍🏫\tman_teacher_medium-light_skin_tone 👨🏼‍🏫
man_teacher_medium_skin_tone 👨🏽‍🏫\tman_technologist 👨‍💻\tman_technologist_dark_skin_tone 👨🏿‍💻
man_technologist_light_skin_tone 👨🏻‍💻\tman_technologist_medium-dark_skin_tone 👨🏾‍💻
man_technologist_medium-light_skin_tone 👨🏼‍💻\tman_technologist_medium_skin_tone 👨🏽‍💻
man_tipping_hand 💁‍♂️\tman_tipping_hand_dark_skin_tone 💁🏿‍♂️
man_tipping_hand_light_skin_tone 💁🏻‍♂️\tman_tipping_hand_medium-dark_skin_tone 💁🏾‍♂️
man_tipping_hand_medium-light_skin_tone 💁🏼‍♂️\tman_tipping_hand_medium_skin_tone 💁🏽‍♂️
man_vampire 🧛‍♂️\tman_vampire_dark_skin_tone 🧛🏿‍♂️\tman_vampire_light_skin_tone 🧛🏻‍♂️
man_vampire_medium-dark_skin_tone 🧛🏾‍♂️\tman_vampire_medium-light_skin_tone 🧛🏼‍♂️
man_vampire_medium_skin_tone 🧛🏽‍♂️\tman_walking 🚶‍♂️\tman_walking_dark_skin_tone 🚶🏿‍♂️
man_walking_light_skin_tone 🚶🏻‍♂️\tman_walking_medium-dark_skin_tone 🚶🏾‍♂️
man_walking_medium-light_skin_tone 🚶🏼‍♂️\tman_walking_medium_skin_tone 🚶🏽‍♂️
man_wearing_turban 👳‍♂️\tman_wearing_turban_dark_skin_tone 👳🏿‍♂️
man_wearing_turban_light_skin_tone 👳🏻‍♂️\tman_wearing_turban_medium-dark_skin_tone 👳🏾‍♂️
man_wearing_turban_medium-light_skin_tone 👳🏼‍♂️\tman_wearing_turban_medium_skin_tone 👳🏽‍♂️
man_with_probing_cane 👨‍🦯\tman_with_chinese_cap 👲\tman_with_chinese_cap_dark_skin_tone 👲🏿
man_with_chinese_cap_light_skin_tone 👲🏻\tman_with_chinese_cap_medium-dark_skin_tone 👲🏾
man_with_chinese_cap_medium-light_skin_tone 👲🏼\tman_with_chinese_cap_medium_skin_tone 👲🏽
man_zombie 🧟‍♂️\tmango 🥭\tmantelpiece_clock 🕰\tmanual_wheelchair 🦽\tman’s_shoe 👞\tmap_of_japan 🗾
maple_leaf 🍁\tmartial_arts_uniform 🥋\tmate 🧉\tmeat_on_bone 🍖\tmechanical_arm 🦾\tmechanical_leg 🦿
medical_symbol ⚕\tmegaphone 📣\tmelon 🍈\tmemo 📝\tmen_with_bunny_ears 👯‍♂️\tmen_wrestling 🤼‍♂️
menorah 🕎\tmen’s_room 🚹\tmermaid 🧜‍♀️\tmermaid_dark_skin_tone 🧜🏿‍♀️
mermaid_light_skin_tone 🧜🏻‍♀️\tmermaid_medium-dark_skin_tone 🧜🏾‍♀️
mermaid_medium-light_skin_tone 🧜🏼‍♀️\tmermaid_medium_skin_tone 🧜🏽‍♀️\tmerman 🧜‍♂️
merman_dark_skin_tone 🧜🏿‍♂️\tmerman_light_skin_tone 🧜🏻‍♂️\tmerman_medium-dark_skin_tone 🧜🏾‍♂️
merman_medium-light_skin_tone 🧜🏼‍♂️\tmerman_medium_skin_tone 🧜🏽‍♂️\tmerperson 🧜
merperson_dark_skin_tone 🧜🏿\tmerperson_light_skin_tone 🧜🏻\tmerperson_medium-dark_skin_tone 🧜🏾
merperson_medium-light_skin_tone 🧜🏼\tmerperson_medium_skin_tone 🧜🏽\tmetro 🚇\tmicrobe 🦠
microphone 🎤\tmicroscope 🔬\tmiddle_finger 🖕\tmiddle_finger_dark_skin_tone 🖕🏿
middle_finger_light_skin_tone 🖕🏻\tmiddle_finger_medium-dark_skin_tone 🖕🏾
middle_finger_medium-light_skin_tone 🖕🏼\tmiddle_finger_medium_skin_tone 🖕🏽\tmilitary_medal 🎖
milky_way 🌌\tminibus 🚐\tmoai 🗿\tmobile_phone 📱\tmobile_phone_off 📴\tmobile_phone_with_arrow 📲
money-mouth_face 🤑\tmoney_bag 💰\tmoney_with_wings 💸\tmonkey 🐒\tmonkey_face 🐵\tmonorail 🚝
moon_cake 🥮\tmoon_viewing_ceremony 🎑\tmosque 🕌\tmosquito 🦟\tmotor_boat 🛥\tmotor_scooter 🛵
motorcycle 🏍\tmotorized_wheelchair 🦼\tmotorway 🛣\tmount_fuji 🗻\tmountain ⛰\tmountain_cableway 🚠
mountain_railway 🚞\tmouse 🐭\tmouse_face 🐭\tmouth 👄\tmovie_camera 🎥\tmushroom 🍄\tmusical_keyboard 🎹
musical_note 🎵\tmusical_notes 🎶\tmusical_score 🎼\tmuted_speaker 🔇\tnail_polish 💅
nail_polish_dark_skin_tone 💅🏿\tnail_polish_light_skin_tone 💅🏻
nail_polish_medium-dark_skin_tone 💅🏾\tnail_polish_medium-light_skin_tone 💅🏼
nail_polish_medium_skin_tone 💅🏽\tname_badge 📛\tnational_park 🏞\tnauseated_face 🤢\tnazar_amulet 🧿
necktie 👔\tnerd_face 🤓\tneutral_face 😐\tnew_moon 🌑\tnew_moon_face 🌚\tnewspaper 📰
next_track_button ⏭\tnight_with_stars 🌃\tnine-thirty 🕤\tnine_o’clock 🕘\tno_bicycles 🚳\tno_entry ⛔
no_littering 🚯\tno_mobile_phones 📵\tno_one_under_eighteen 🔞\tno_pedestrians 🚷\tno_smoking 🚭
non-potable_water 🚱\tnose 👃\tnose_dark_skin_tone 👃🏿\tnose_light_skin_tone 👃🏻
nose_medium-dark_skin_tone 👃🏾\tnose_medium-light_skin_tone 👃🏼\tnose_medium_skin_tone 👃🏽
notebook 📓\tnotebook_with_decorative_cover 📔\tnut_and_bolt 🔩\toctopus 🐙\toden 🍢
office_building 🏢\togre 👹\toil_drum 🛢\told_key 🗝\told_man 👴\told_man_dark_skin_tone 👴🏿
old_man_light_skin_tone 👴🏻\told_man_medium-dark_skin_tone 👴🏾
old_man_medium-light_skin_tone 👴🏼\told_man_medium_skin_tone 👴🏽\told_woman 👵
old_woman_dark_skin_tone 👵🏿\told_woman_light_skin_tone 👵🏻\told_woman_medium-dark_skin_tone 👵🏾
old_woman_medium-light_skin_tone 👵🏼\told_woman_medium_skin_tone 👵🏽\tolder_adult 🧓
older_adult_dark_skin_tone 🧓🏿\tolder_adult_light_skin_tone 🧓🏻
older_adult_medium-dark_skin_tone 🧓🏾\tolder_adult_medium-light_skin_tone 🧓🏼
older_adult_medium_skin_tone 🧓🏽\tom 🕉\toncoming_automobile 🚘\toncoming_bus 🚍\toncoming_fist 👊
oncoming_fist_dark_skin_tone 👊🏿\toncoming_fist_light_skin_tone 👊🏻
oncoming_fist_medium-dark_skin_tone 👊🏾\toncoming_fist_medium-light_skin_tone 👊🏼
oncoming_fist_medium_skin_tone 👊🏽\toncoming_police_car 🚔\toncoming_taxi 🚖\tone-piece_swimsuit 🩱
one-thirty 🕜\tone_o’clock 🕐\tonion 🧅\topen_book 📖\topen_file_folder 📂\topen_hands 👐
open_hands_dark_skin_tone 👐🏿\topen_hands_light_skin_tone 👐🏻
open_hands_medium-dark_skin_tone 👐🏾\topen_hands_medium-light_skin_tone 👐🏼
open_hands_medium_skin_tone 👐🏽\topen_mailbox_with_lowered_flag 📭
open_mailbox_with_raised_flag 📬\toptical_disk 💿\torange_book 📙\torange_circle 🟠\torange_heart 🧡
orange_square 🟧\torangutan 🦧\torthodox_cross ☦\totter 🦦\toutbox_tray 📤\towl 🦉\tox 🐂\toyster 🦪
package 📦\tpage_facing_up 📄\tpage_with_curl 📃\tpager 📟\tpaintbrush 🖌\tpalm_tree 🌴
palms_up_together 🤲\tpalms_up_together_dark_skin_tone 🤲🏿\tpalms_up_together_light_skin_tone 🤲🏻
palms_up_together_medium-dark_skin_tone 🤲🏾\tpalms_up_together_medium-light_skin_tone 🤲🏼
palms_up_together_medium_skin_tone 🤲🏽\tpancakes 🥞\tpanda_face 🐼\tpaperclip 📎\tparrot 🦜
part_alternation_mark 〽\tparty_popper 🎉\tpartying_face 🥳\tpassenger_ship 🛳\tpassport_control 🛂
pause_button ⏸\tpaw_prints 🐾\tpeace_symbol ☮\tpeach 🍑\tpeacock 🦚\tpeanuts 🥜\tpear 🍐\tpen 🖊\tpencil 📝
penguin 🐧\tpensive_face 😔\tpeople_holding_hands 🧑‍🤝‍🧑\tpeople_with_bunny_ears 👯
people_wrestling 🤼\tperforming_arts 🎭\tpersevering_face 😣\tperson_biking 🚴
person_biking_dark_skin_tone 🚴🏿\tperson_biking_light_skin_tone 🚴🏻
person_biking_medium-dark_skin_tone 🚴🏾\tperson_biking_medium-light_skin_tone 🚴🏼
person_biking_medium_skin_tone 🚴🏽\tperson_bouncing_ball ⛹
person_bouncing_ball_dark_skin_tone ⛹🏿\tperson_bouncing_ball_light_skin_tone ⛹🏻
person_bouncing_ball_medium-dark_skin_tone ⛹🏾\tperson_bouncing_ball_medium-light_skin_tone ⛹🏼
person_bouncing_ball_medium_skin_tone ⛹🏽\tperson_bowing 🙇\tperson_bowing_dark_skin_tone 🙇🏿
person_bowing_light_skin_tone 🙇🏻\tperson_bowing_medium-dark_skin_tone 🙇🏾
person_bowing_medium-light_skin_tone 🙇🏼\tperson_bowing_medium_skin_tone 🙇🏽
person_cartwheeling 🤸\tperson_cartwheeling_dark_skin_tone 🤸🏿
person_cartwheeling_light_skin_tone 🤸🏻\tperson_cartwheeling_medium-dark_skin_tone 🤸🏾
person_cartwheeling_medium-light_skin_tone 🤸🏼\tperson_cartwheeling_medium_skin_tone 🤸🏽
person_climbing 🧗\tperson_climbing_dark_skin_tone 🧗🏿\tperson_climbing_light_skin_tone 🧗🏻
person_climbing_medium-dark_skin_tone 🧗🏾\tperson_climbing_medium-light_skin_tone 🧗🏼
person_climbing_medium_skin_tone 🧗🏽\tperson_facepalming 🤦
person_facepalming_dark_skin_tone 🤦🏿\tperson_facepalming_light_skin_tone 🤦🏻
person_facepalming_medium-dark_skin_tone 🤦🏾\tperson_facepalming_medium-light_skin_tone 🤦🏼
person_facepalming_medium_skin_tone 🤦🏽\tperson_fencing 🤺\tperson_frowning 🙍
person_frowning_dark_skin_tone 🙍🏿\tperson_frowning_light_skin_tone 🙍🏻
person_frowning_medium-dark_skin_tone 🙍🏾\tperson_frowning_medium-light_skin_tone 🙍🏼
person_frowning_medium_skin_tone 🙍🏽\tperson_gesturing_no 🙅
person_gesturing_no_dark_skin_tone 🙅🏿\tperson_gesturing_no_light_skin_tone 🙅🏻
person_gesturing_no_medium-dark_skin_tone 🙅🏾\tperson_gesturing_no_medium-light_skin_tone 🙅🏼
person_gesturing_no_medium_skin_tone 🙅🏽\tperson_gesturing_ok 🙆
person_gesturing_ok_dark_skin_tone 🙆🏿\tperson_gesturing_ok_light_skin_tone 🙆🏻
person_gesturing_ok_medium-dark_skin_tone 🙆🏾\tperson_gesturing_ok_medium-light_skin_tone 🙆🏼
person_gesturing_ok_medium_skin_tone 🙆🏽\tperson_getting_haircut 💇
person_getting_haircut_dark_skin_tone 💇🏿\tperson_getting_haircut_light_skin_tone 💇🏻
person_getting_haircut_medium-dark_skin_tone 💇🏾
person_getting_haircut_medium-light_skin_tone 💇🏼\tperson_getting_haircut_medium_skin_tone 💇🏽
person_getting_massage 💆\tperson_getting_massage_dark_skin_tone 💆🏿
person_getting_massage_light_skin_tone 💆🏻\tperson_getting_massage_medium-dark_skin_tone 💆🏾
person_getting_massage_medium-light_skin_tone 💆🏼\tperson_getting_massage_medium_skin_tone 💆🏽
person_golfing 🏌\tperson_golfing_dark_skin_tone 🏌🏿\tperson_golfing_light_skin_tone 🏌🏻
person_golfing_medium-dark_skin_tone 🏌🏾\tperson_golfing_medium-light_skin_tone 🏌🏼
person_golfing_medium_skin_tone 🏌🏽\tperson_in_bed 🛌\tperson_in_bed_dark_skin_tone 🛌🏿
person_in_bed_light_skin_tone 🛌🏻\tperson_in_bed_medium-dark_skin_tone 🛌🏾
person_in_bed_medium-light_skin_tone 🛌🏼\tperson_in_bed_medium_skin_tone 🛌🏽
person_in_lotus_position 🧘\tperson_in_lotus_position_dark_skin_tone 🧘🏿
person_in_lotus_position_light_skin_tone 🧘🏻
person_in_lotus_position_medium-dark_skin_tone 🧘🏾
person_in_lotus_position_medium-light_skin_tone 🧘🏼
person_in_lotus_position_medium_skin_tone 🧘🏽\tperson_in_steamy_room 🧖
person_in_steamy_room_dark_skin_tone 🧖🏿\tperson_in_steamy_room_light_skin_tone 🧖🏻
person_in_steamy_room_medium-dark_skin_tone 🧖🏾
person_in_steamy_room_medium-light_skin_tone 🧖🏼\tperson_in_steamy_room_medium_skin_tone 🧖🏽
person_juggling 🤹\tperson_juggling_dark_skin_tone 🤹🏿\tperson_juggling_light_skin_tone 🤹🏻
person_juggling_medium-dark_skin_tone 🤹🏾\tperson_juggling_medium-light_skin_tone 🤹🏼
person_juggling_medium_skin_tone 🤹🏽\tperson_kneeling 🧎\tperson_lifting_weights 🏋
person_lifting_weights_dark_skin_tone 🏋🏿\tperson_lifting_weights_light_skin_tone 🏋🏻
person_lifting_weights_medium-dark_skin_tone 🏋🏾
person_lifting_weights_medium-light_skin_tone 🏋🏼\tperson_lifting_weights_medium_skin_tone 🏋🏽
person_mountain_biking 🚵\tperson_mountain_biking_dark_skin_tone 🚵🏿
person_mountain_biking_light_skin_tone 🚵🏻\tperson_mountain_biking_medium-dark_skin_tone 🚵🏾
person_mountain_biking_medium-light_skin_tone 🚵🏼\tperson_mountain_biking_medium_skin_tone 🚵🏽
person_playing_handball 🤾\tperson_playing_handball_dark_skin_tone 🤾🏿
person_playing_handball_light_skin_tone 🤾🏻\tperson_playing_handball_medium-dark_skin_tone 🤾🏾
person_playing_handball_medium-light_skin_tone 🤾🏼
person_playing_handball_medium_skin_tone 🤾🏽\tperson_playing_water_polo 🤽
person_playing_water_polo_dark_skin_tone 🤽🏿\tperson_playing_water_polo_light_skin_tone 🤽🏻
person_playing_water_polo_medium-dark_skin_tone 🤽🏾
person_playing_water_polo_medium-light_skin_tone 🤽🏼
person_playing_water_polo_medium_skin_tone 🤽🏽\tperson_pouting 🙎
person_pouting_dark_skin_tone 🙎🏿\tperson_pouting_light_skin_tone 🙎🏻
person_pouting_medium-dark_skin_tone 🙎🏾\tperson_pouting_medium-light_skin_tone 🙎🏼
person_pouting_medium_skin_tone 🙎🏽\tperson_raising_hand 🙋
person_raising_hand_dark_skin_tone 🙋🏿\tperson_raising_hand_light_skin_tone 🙋🏻
person_raising_hand_medium-dark_skin_tone 🙋🏾\tperson_raising_hand_medium-light_skin_tone 🙋🏼
person_raising_hand_medium_skin_tone 🙋🏽\tperson_rowing_boat 🚣
person_rowing_boat_dark_skin_tone 🚣🏿\tperson_rowing_boat_light_skin_tone 🚣🏻
person_rowing_boat_medium-dark_skin_tone 🚣🏾\tperson_rowing_boat_medium-light_skin_tone 🚣🏼
person_rowing_boat_medium_skin_tone 🚣🏽\tperson_running 🏃\tperson_running_dark_skin_tone 🏃🏿
person_running_light_skin_tone 🏃🏻\tperson_running_medium-dark_skin_tone 🏃🏾
person_running_medium-light_skin_tone 🏃🏼\tperson_running_medium_skin_tone 🏃🏽
person_shrugging 🤷\tperson_shrugging_dark_skin_tone 🤷🏿\tperson_shrugging_light_skin_tone 🤷🏻
person_shrugging_medium-dark_skin_tone 🤷🏾\tperson_shrugging_medium-light_skin_tone 🤷🏼
person_shrugging_medium_skin_tone 🤷🏽\tperson_standing 🧍\tperson_surfing 🏄
person_surfing_dark_skin_tone 🏄🏿\tperson_surfing_light_skin_tone 🏄🏻
person_surfing_medium-dark_skin_tone 🏄🏾\tperson_surfing_medium-light_skin_tone 🏄🏼
person_surfing_medium_skin_tone 🏄🏽\tperson_swimming 🏊\tperson_swimming_dark_skin_tone 🏊🏿
person_swimming_light_skin_tone 🏊🏻\tperson_swimming_medium-dark_skin_tone 🏊🏾
person_swimming_medium-light_skin_tone 🏊🏼\tperson_swimming_medium_skin_tone 🏊🏽
person_taking_bath 🛀\tperson_taking_bath_dark_skin_tone 🛀🏿
person_taking_bath_light_skin_tone 🛀🏻\tperson_taking_bath_medium-dark_skin_tone 🛀🏾
person_taking_bath_medium-light_skin_tone 🛀🏼\tperson_taking_bath_medium_skin_tone 🛀🏽
person_tipping_hand 💁\tperson_tipping_hand_dark_skin_tone 💁🏿
person_tipping_hand_light_skin_tone 💁🏻\tperson_tipping_hand_medium-dark_skin_tone 💁🏾
person_tipping_hand_medium-light_skin_tone 💁🏼\tperson_tipping_hand_medium_skin_tone 💁🏽
person_walking 🚶\tperson_walking_dark_skin_tone 🚶🏿\tperson_walking_light_skin_tone 🚶🏻
person_walking_medium-dark_skin_tone 🚶🏾\tperson_walking_medium-light_skin_tone 🚶🏼
person_walking_medium_skin_tone 🚶🏽\tperson_wearing_turban 👳
person_wearing_turban_dark_skin_tone 👳🏿\tperson_wearing_turban_light_skin_tone 👳🏻
person_wearing_turban_medium-dark_skin_tone 👳🏾
person_wearing_turban_medium-light_skin_tone 👳🏼\tperson_wearing_turban_medium_skin_tone 👳🏽
petri_dish 🧫\tpick ⛏\tpie 🥧\tpig 🐷\tpig_face 🐷\tpig_nose 🐽\tpile_of_poo 💩\tpill 💊\tpinching_hand 🤏
pine_decoration 🎍\tpineapple 🍍\tping_pong 🏓\tpirate_flag 🏴‍☠️\tpistol 🔫\tpizza 🍕
place_of_worship 🛐\tplay_button ▶\tplay_or_pause_button ⏯\tpleading_face 🥺\tpolice_car 🚓
police_car_light 🚨\tpolice_officer 👮\tpolice_officer_dark_skin_tone 👮🏿
police_officer_light_skin_tone 👮🏻\tpolice_officer_medium-dark_skin_tone 👮🏾
police_officer_medium-light_skin_tone 👮🏼\tpolice_officer_medium_skin_tone 👮🏽\tpoodle 🐩
pool_8_ball 🎱\tpopcorn 🍿\tpost_office 🏣\tpostal_horn 📯\tpostbox 📮\tpot_of_food 🍲\tpotable_water 🚰
potato 🥔\tpoultry_leg 🍗\tpound_banknote 💷\tpouting_cat_face 😾\tpouting_face 😡\tprayer_beads 📿
pregnant_woman 🤰\tpregnant_woman_dark_skin_tone 🤰🏿\tpregnant_woman_light_skin_tone 🤰🏻
pregnant_woman_medium-dark_skin_tone 🤰🏾\tpregnant_woman_medium-light_skin_tone 🤰🏼
pregnant_woman_medium_skin_tone 🤰🏽\tpretzel 🥨\tprobing_cane 🦯\tprince 🤴
prince_dark_skin_tone 🤴🏿\tprince_light_skin_tone 🤴🏻\tprince_medium-dark_skin_tone 🤴🏾
prince_medium-light_skin_tone 🤴🏼\tprince_medium_skin_tone 🤴🏽\tprincess 👸
princess_dark_skin_tone 👸🏿\tprincess_light_skin_tone 👸🏻\tprincess_medium-dark_skin_tone 👸🏾
princess_medium-light_skin_tone 👸🏼\tprincess_medium_skin_tone 👸🏽\tprinter 🖨\tprohibited 🚫
purple_circle 🟣\tpurple_heart 💜\tpurple_square 🟪\tpurse 👛\tpushpin 📌\tquestion_mark ❓\trabbit 🐰
rabbit_face 🐰\traccoon 🦝\tracing_car 🏎\tradio 📻\tradio_button 🔘\tradioactive ☢\trailway_car 🚃
railway_track 🛤\trainbow 🌈\trainbow_flag 🏳️‍🌈\traised_back_of_hand 🤚
raised_back_of_hand_dark_skin_tone 🤚🏿\traised_back_of_hand_light_skin_tone 🤚🏻
raised_back_of_hand_medium-dark_skin_tone 🤚🏾\traised_back_of_hand_medium-light_skin_tone 🤚🏼
raised_back_of_hand_medium_skin_tone 🤚🏽\traised_fist ✊\traised_fist_dark_skin_tone ✊🏿
raised_fist_light_skin_tone ✊🏻\traised_fist_medium-dark_skin_tone ✊🏾
raised_fist_medium-light_skin_tone ✊🏼\traised_fist_medium_skin_tone ✊🏽\traised_hand ✋
raised_hand_dark_skin_tone ✋🏿\traised_hand_light_skin_tone ✋🏻
raised_hand_medium-dark_skin_tone ✋🏾\traised_hand_medium-light_skin_tone ✋🏼
raised_hand_medium_skin_tone ✋🏽\traising_hands 🙌\traising_hands_dark_skin_tone 🙌🏿
raising_hands_light_skin_tone 🙌🏻\traising_hands_medium-dark_skin_tone 🙌🏾
raising_hands_medium-light_skin_tone 🙌🏼\traising_hands_medium_skin_tone 🙌🏽\tram 🐏\trat 🐀
razor 🪒\tringed_planet 🪐\treceipt 🧾\trecord_button ⏺\trecycling_symbol ♻\tred_apple 🍎
red_circle 🔴\tred_envelope 🧧\tred_hair 🦰\tred-haired_man 👨‍🦰\tred-haired_woman 👩‍🦰\tred_heart ❤
red_paper_lantern 🏮\tred_square 🟥\tred_triangle_pointed_down 🔻\tred_triangle_pointed_up 🔺
registered ®\trelieved_face 😌\treminder_ribbon 🎗\trepeat_button 🔁\trepeat_single_button 🔂
rescue_worker’s_helmet ⛑\trestroom 🚻\treverse_button ◀\trevolving_hearts 💞\trhinoceros 🦏
ribbon 🎀\trice_ball 🍙\trice_cracker 🍘\tright-facing_fist 🤜\tright-facing_fist_dark_skin_tone 🤜🏿
right-facing_fist_light_skin_tone 🤜🏻\tright-facing_fist_medium-dark_skin_tone 🤜🏾
right-facing_fist_medium-light_skin_tone 🤜🏼\tright-facing_fist_medium_skin_tone 🤜🏽
right_anger_bubble 🗯\tright_arrow ➡\tright_arrow_curving_down ⤵\tright_arrow_curving_left ↩
right_arrow_curving_up ⤴\tring 💍\troasted_sweet_potato 🍠\trobot_face 🤖\trocket 🚀\troll_of_paper 🧻
rolled-up_newspaper 🗞\troller_coaster 🎢\trolling_on_the_floor_laughing 🤣\trooster 🐓\trose 🌹
rosette 🏵\tround_pushpin 📍\trugby_football 🏉\trunning_shirt 🎽\trunning_shoe 👟
sad_but_relieved_face 😥\tsafety_pin 🧷\tsafety_vest 🦺\tsalt 🧂\tsailboat ⛵\tsake 🍶\tsandwich 🥪
sari 🥻\tsatellite 📡\tsatellite_antenna 📡\tsauropod 🦕\tsaxophone 🎷\tscarf 🧣\tschool 🏫
school_backpack 🎒\tscissors ✂\tscorpion 🦂\tscroll 📜\tseat 💺\tsee-no-evil_monkey 🙈\tseedling 🌱
selfie 🤳\tselfie_dark_skin_tone 🤳🏿\tselfie_light_skin_tone 🤳🏻\tselfie_medium-dark_skin_tone 🤳🏾
selfie_medium-light_skin_tone 🤳🏼\tselfie_medium_skin_tone 🤳🏽\tservice_dog 🐕‍🦺\tseven-thirty 🕢
seven_o’clock 🕖\tshallow_pan_of_food 🥘\tshamrock ☘\tshark 🦈\tshaved_ice 🍧\tsheaf_of_rice 🌾
shield 🛡\tshinto_shrine ⛩\tship 🚢\tshooting_star 🌠\tshopping_bags 🛍\tshopping_cart 🛒\tshortcake 🍰
shorts 🩳\tshower 🚿\tshrimp 🦐\tshuffle_tracks_button 🔀\tshushing_face 🤫\tsign_of_the_horns 🤘
sign_of_the_horns_dark_skin_tone 🤘🏿\tsign_of_the_horns_light_skin_tone 🤘🏻
sign_of_the_horns_medium-dark_skin_tone 🤘🏾\tsign_of_the_horns_medium-light_skin_tone 🤘🏼
sign_of_the_horns_medium_skin_tone 🤘🏽\tsix-thirty 🕡\tsix_o’clock 🕕\tskateboard 🛹\tskier ⛷\tskis 🎿
skull 💀\tskull_and_crossbones ☠\tskunk 🦨\tsled 🛷\tsleeping_face 😴\tsleepy_face 😪
slightly_frowning_face 🙁\tslightly_smiling_face 🙂\tslot_machine 🎰\tsloth 🦥\tsmall_airplane 🛩
small_blue_diamond 🔹\tsmall_orange_diamond 🔸\tsmiling_cat_face_with_heart-eyes 😻
smiling_face ☺\tsmiling_face_with_halo 😇\tsmiling_face_with_3_hearts 🥰
smiling_face_with_heart-eyes 😍\tsmiling_face_with_horns 😈\tsmiling_face_with_smiling_eyes 😊
smiling_face_with_sunglasses 😎\tsmirking_face 😏\tsnail 🐌\tsnake 🐍\tsneezing_face 🤧
snow-capped_mountain 🏔\tsnowboarder 🏂\tsnowboarder_dark_skin_tone 🏂🏿
snowboarder_light_skin_tone 🏂🏻\tsnowboarder_medium-dark_skin_tone 🏂🏾
snowboarder_medium-light_skin_tone 🏂🏼\tsnowboarder_medium_skin_tone 🏂🏽\tsnowflake ❄\tsnowman ☃
snowman_without_snow ⛄\tsoap 🧼\tsoccer_ball ⚽\tsocks 🧦\tsoftball 🥎\tsoft_ice_cream 🍦\tspade_suit ♠
spaghetti 🍝\tsparkle ❇\tsparkler 🎇\tsparkles ✨\tsparkling_heart 💖\tspeak-no-evil_monkey 🙊
speaker_high_volume 🔊\tspeaker_low_volume 🔈\tspeaker_medium_volume 🔉\tspeaking_head 🗣
speech_balloon 💬\tspeedboat 🚤\tspider 🕷\tspider_web 🕸\tspiral_calendar 🗓\tspiral_notepad 🗒
spiral_shell 🐚\tspoon 🥄\tsponge 🧽\tsport_utility_vehicle 🚙\tsports_medal 🏅\tspouting_whale 🐳
squid 🦑\tsquinting_face_with_tongue 😝\tstadium 🏟\tstar-struck 🤩\tstar_and_crescent ☪
star_of_david ✡\tstation 🚉\tsteaming_bowl 🍜\tstethoscope 🩺\tstop_button ⏹\tstop_sign 🛑
stopwatch ⏱\tstraight_ruler 📏\tstrawberry 🍓\tstudio_microphone 🎙\tstuffed_flatbread 🥙\tsun ☀
sun_behind_cloud ⛅\tsun_behind_large_cloud 🌥\tsun_behind_rain_cloud 🌦\tsun_behind_small_cloud 🌤
sun_with_face 🌞\tsunflower 🌻\tsunglasses 😎\tsunrise 🌅\tsunrise_over_mountains 🌄\tsunset 🌇
superhero 🦸\tsupervillain 🦹\tsushi 🍣\tsuspension_railway 🚟\tswan 🦢\tsweat_droplets 💦\tsynagogue 🕍
syringe 💉\tt-shirt 👕\ttaco 🌮\ttakeout_box 🥡\ttanabata_tree 🎋\ttangerine 🍊\ttaxi 🚕
teacup_without_handle 🍵\ttear-off_calendar 📆\tteddy_bear 🧸\ttelephone ☎\ttelephone_receiver 📞
telescope 🔭\ttelevision 📺\tten-thirty 🕥\tten_o’clock 🕙\ttennis 🎾\ttent ⛺\ttest_tube 🧪
thermometer 🌡\tthinking_face 🤔\tthought_balloon 💭\tthread 🧵\tthree-thirty 🕞\tthree_o’clock 🕒
thumbs_down 👎\tthumbs_down_dark_skin_tone 👎🏿\tthumbs_down_light_skin_tone 👎🏻
thumbs_down_medium-dark_skin_tone 👎🏾\tthumbs_down_medium-light_skin_tone 👎🏼
thumbs_down_medium_skin_tone 👎🏽\tthumbs_up 👍\tthumbs_up_dark_skin_tone 👍🏿
thumbs_up_light_skin_tone 👍🏻\tthumbs_up_medium-dark_skin_tone 👍🏾
thumbs_up_medium-light_skin_tone 👍🏼\tthumbs_up_medium_skin_tone 👍🏽\tticket 🎫\ttiger 🐯
tiger_face 🐯\ttimer_clock ⏲\ttired_face 😫\ttoolbox 🧰\ttoilet 🚽\ttomato 🍅\ttongue 👅\ttooth 🦷
top_hat 🎩\ttornado 🌪\ttrackball 🖲\ttractor 🚜\ttrade_mark ™\ttrain 🚋\ttram 🚊\ttram_car 🚋
triangular_flag 🚩\ttriangular_ruler 📐\ttrident_emblem 🔱\ttrolleybus 🚎\ttrophy 🏆\ttropical_drink 🍹
tropical_fish 🐠\ttrumpet 🎺\ttulip 🌷\ttumbler_glass 🥃\tturtle 🐢\ttwelve-thirty 🕧\ttwelve_o’clock 🕛
two-hump_camel 🐫\ttwo-thirty 🕝\ttwo_hearts 💕\ttwo_men_holding_hands 👬\ttwo_o’clock 🕑
two_women_holding_hands 👭\tumbrella ☂\tumbrella_on_ground ⛱\tumbrella_with_rain_drops ☔
unamused_face 😒\tunicorn_face 🦄\tunlocked 🔓\tup-down_arrow ↕\tup-left_arrow ↖\tup-right_arrow ↗
up_arrow ⬆\tupside-down_face 🙃\tupwards_button 🔼\tvampire 🧛\tvampire_dark_skin_tone 🧛🏿
vampire_light_skin_tone 🧛🏻\tvampire_medium-dark_skin_tone 🧛🏾
vampire_medium-light_skin_tone 🧛🏼\tvampire_medium_skin_tone 🧛🏽\tvertical_traffic_light 🚦
vibration_mode 📳\tvictory_hand ✌\tvictory_hand_dark_skin_tone ✌🏿
victory_hand_light_skin_tone ✌🏻\tvictory_hand_medium-dark_skin_tone ✌🏾
victory_hand_medium-light_skin_tone ✌🏼\tvictory_hand_medium_skin_tone ✌🏽\tvideo_camera 📹
video_game 🎮\tvideocassette 📼\tviolin 🎻\tvolcano 🌋\tvolleyball 🏐\tvulcan_salute 🖖
vulcan_salute_dark_skin_tone 🖖🏿\tvulcan_salute_light_skin_tone 🖖🏻
vulcan_salute_medium-dark_skin_tone 🖖🏾\tvulcan_salute_medium-light_skin_tone 🖖🏼
vulcan_salute_medium_skin_tone 🖖🏽\twaffle 🧇\twaning_crescent_moon 🌘\twaning_gibbous_moon 🌖
warning ⚠\twastebasket 🗑\twatch ⌚\twater_buffalo 🐃\twater_closet 🚾\twater_wave 🌊\twatermelon 🍉
waving_hand 👋\twaving_hand_dark_skin_tone 👋🏿\twaving_hand_light_skin_tone 👋🏻
waving_hand_medium-dark_skin_tone 👋🏾\twaving_hand_medium-light_skin_tone 👋🏼
waving_hand_medium_skin_tone 👋🏽\twavy_dash 〰\twaxing_crescent_moon 🌒\twaxing_gibbous_moon 🌔
weary_cat_face 🙀\tweary_face 😩\twedding 💒\twhale 🐳\twheel_of_dharma ☸\twheelchair_symbol ♿
white_circle ⚪\twhite_exclamation_mark ❕\twhite_flag 🏳\twhite_flower 💮\twhite_hair 🦳
white-haired_man 👨‍🦳\twhite-haired_woman 👩‍🦳\twhite_heart 🤍\twhite_heavy_check_mark ✅
white_large_square ⬜\twhite_medium-small_square ◽\twhite_medium_square ◻\twhite_medium_star ⭐
white_question_mark ❔\twhite_small_square ▫\twhite_square_button 🔳\twilted_flower 🥀
wind_chime 🎐\twind_face 🌬\twine_glass 🍷\twinking_face 😉\twinking_face_with_tongue 😜\twolf_face 🐺
woman 👩\twoman_artist 👩‍🎨\twoman_artist_dark_skin_tone 👩🏿‍🎨\twoman_artist_light_skin_tone 👩🏻‍🎨
woman_artist_medium-dark_skin_tone 👩🏾‍🎨\twoman_artist_medium-light_skin_tone 👩🏼‍🎨
woman_artist_medium_skin_tone 👩🏽‍🎨\twoman_astronaut 👩‍🚀\twoman_astronaut_dark_skin_tone 👩🏿‍🚀
woman_astronaut_light_skin_tone 👩🏻‍🚀\twoman_astronaut_medium-dark_skin_tone 👩🏾‍🚀
woman_astronaut_medium-light_skin_tone 👩🏼‍🚀\twoman_astronaut_medium_skin_tone 👩🏽‍🚀
woman_biking 🚴‍♀️\twoman_biking_dark_skin_tone 🚴🏿‍♀️\twoman_biking_light_skin_tone 🚴🏻‍♀️
woman_biking_medium-dark_skin_tone 🚴🏾‍♀️\twoman_biking_medium-light_skin_tone 🚴🏼‍♀️
woman_biking_medium_skin_tone 🚴🏽‍♀️\twoman_bouncing_ball ⛹️‍♀️
woman_bouncing_ball_dark_skin_tone ⛹🏿‍♀️\twoman_bouncing_ball_light_skin_tone ⛹🏻‍♀️
woman_bouncing_ball_medium-dark_skin_tone ⛹🏾‍♀️
woman_bouncing_ball_medium-light_skin_tone ⛹🏼‍♀️\twoman_bouncing_ball_medium_skin_tone ⛹🏽‍♀️
woman_bowing 🙇‍♀️\twoman_bowing_dark_skin_tone 🙇🏿‍♀️\twoman_bowing_light_skin_tone 🙇🏻‍♀️
woman_bowing_medium-dark_skin_tone 🙇🏾‍♀️\twoman_bowing_medium-light_skin_tone 🙇🏼‍♀️
woman_bowing_medium_skin_tone 🙇🏽‍♀️\twoman_cartwheeling 🤸‍♀️
woman_cartwheeling_dark_skin_tone 🤸🏿‍♀️\twoman_cartwheeling_light_skin_tone 🤸🏻‍♀️
woman_cartwheeling_medium-dark_skin_tone 🤸🏾‍♀️
woman_cartwheeling_medium-light_skin_tone 🤸🏼‍♀️\twoman_cartwheeling_medium_skin_tone 🤸🏽‍♀️
woman_climbing 🧗‍♀️\twoman_climbing_dark_skin_tone 🧗🏿‍♀️\twoman_climbing_light_skin_tone 🧗🏻‍♀️
woman_climbing_medium-dark_skin_tone 🧗🏾‍♀️\twoman_climbing_medium-light_skin_tone 🧗🏼‍♀️
woman_climbing_medium_skin_tone 🧗🏽‍♀️\twoman_construction_worker 👷‍♀️
woman_construction_worker_dark_skin_tone 👷🏿‍♀️
woman_construction_worker_light_skin_tone 👷🏻‍♀️
woman_construction_worker_medium-dark_skin_tone 👷🏾‍♀️
woman_construction_worker_medium-light_skin_tone 👷🏼‍♀️
woman_construction_worker_medium_skin_tone 👷🏽‍♀️\twoman_cook 👩‍🍳
woman_cook_dark_skin_tone 👩🏿‍🍳\twoman_cook_light_skin_tone 👩🏻‍🍳
woman_cook_medium-dark_skin_tone 👩🏾‍🍳\twoman_cook_medium-light_skin_tone 👩🏼‍🍳
woman_cook_medium_skin_tone 👩🏽‍🍳\twoman_dancing 💃\twoman_dancing_dark_skin_tone 💃🏿
woman_dancing_light_skin_tone 💃🏻\twoman_dancing_medium-dark_skin_tone 💃🏾
woman_dancing_medium-light_skin_tone 💃🏼\twoman_dancing_medium_skin_tone 💃🏽
woman_dark_skin_tone 👩🏿\twoman_detective 🕵️‍♀️\twoman_detective_dark_skin_tone 🕵🏿‍♀️
woman_detective_light_skin_tone 🕵🏻‍♀️\twoman_detective_medium-dark_skin_tone 🕵🏾‍♀️
woman_detective_medium-light_skin_tone 🕵🏼‍♀️\twoman_detective_medium_skin_tone 🕵🏽‍♀️
woman_elf 🧝‍♀️\twoman_elf_dark_skin_tone 🧝🏿‍♀️\twoman_elf_light_skin_tone 🧝🏻‍♀️
woman_elf_medium-dark_skin_tone 🧝🏾‍♀️\twoman_elf_medium-light_skin_tone 🧝🏼‍♀️
woman_elf_medium_skin_tone 🧝🏽‍♀️\twoman_facepalming 🤦‍♀️
woman_facepalming_dark_skin_tone 🤦🏿‍♀️\twoman_facepalming_light_skin_tone 🤦🏻‍♀️
woman_facepalming_medium-dark_skin_tone 🤦🏾‍♀️\twoman_facepalming_medium-light_skin_tone 🤦🏼‍♀️
woman_facepalming_medium_skin_tone 🤦🏽‍♀️\twoman_factory_worker 👩‍🏭
woman_factory_worker_dark_skin_tone 👩🏿‍🏭\twoman_factory_worker_light_skin_tone 👩🏻‍🏭
woman_factory_worker_medium-dark_skin_tone 👩🏾‍🏭
woman_factory_worker_medium-light_skin_tone 👩🏼‍🏭\twoman_factory_worker_medium_skin_tone 👩🏽‍🏭
woman_fairy 🧚‍♀️\twoman_fairy_dark_skin_tone 🧚🏿‍♀️\twoman_fairy_light_skin_tone 🧚🏻‍♀️
woman_fairy_medium-dark_skin_tone 🧚🏾‍♀️\twoman_fairy_medium-light_skin_tone 🧚🏼‍♀️
woman_fairy_medium_skin_tone 🧚🏽‍♀️\twoman_farmer 👩‍🌾\twoman_farmer_dark_skin_tone 👩🏿‍🌾
woman_farmer_light_skin_tone 👩🏻‍🌾\twoman_farmer_medium-dark_skin_tone 👩🏾‍🌾
woman_farmer_medium-light_skin_tone 👩🏼‍🌾\twoman_farmer_medium_skin_tone 👩🏽‍🌾
woman_firefighter 👩‍🚒\twoman_firefighter_dark_skin_tone 👩🏿‍🚒
woman_firefighter_light_skin_tone 👩🏻‍🚒\twoman_firefighter_medium-dark_skin_tone 👩🏾‍🚒
woman_firefighter_medium-light_skin_tone 👩🏼‍🚒\twoman_firefighter_medium_skin_tone 👩🏽‍🚒
woman_frowning 🙍‍♀️\twoman_frowning_dark_skin_tone 🙍🏿‍♀️\twoman_frowning_light_skin_tone 🙍🏻‍♀️
woman_frowning_medium-dark_skin_tone 🙍🏾‍♀️\twoman_frowning_medium-light_skin_tone 🙍🏼‍♀️
woman_frowning_medium_skin_tone 🙍🏽‍♀️\twoman_genie 🧞‍♀️\twoman_gesturing_no 🙅‍♀️
woman_gesturing_no_dark_skin_tone 🙅🏿‍♀️\twoman_gesturing_no_light_skin_tone 🙅🏻‍♀️
woman_gesturing_no_medium-dark_skin_tone 🙅🏾‍♀️
woman_gesturing_no_medium-light_skin_tone 🙅🏼‍♀️\twoman_gesturing_no_medium_skin_tone 🙅🏽‍♀️
woman_gesturing_ok 🙆‍♀️\twoman_gesturing_ok_dark_skin_tone 🙆🏿‍♀️
woman_gesturing_ok_light_skin_tone 🙆🏻‍♀️\twoman_gesturing_ok_medium-dark_skin_tone 🙆🏾‍♀️
woman_gesturing_ok_medium-light_skin_tone 🙆🏼‍♀️\twoman_gesturing_ok_medium_skin_tone 🙆🏽‍♀️
woman_getting_haircut 💇‍♀️\twoman_getting_haircut_dark_skin_tone 💇🏿‍♀️
woman_getting_haircut_light_skin_tone 💇🏻‍♀️
woman_getting_haircut_medium-dark_skin_tone 💇🏾‍♀️
woman_getting_haircut_medium-light_skin_tone 💇🏼‍♀️
woman_getting_haircut_medium_skin_tone 💇🏽‍♀️\twoman_getting_massage 💆‍♀️
woman_getting_massage_dark_skin_tone 💆🏿‍♀️\twoman_getting_massage_light_skin_tone 💆🏻‍♀️
woman_getting_massage_medium-dark_skin_tone 💆🏾‍♀️
woman_getting_massage_medium-light_skin_tone 💆🏼‍♀️
woman_getting_massage_medium_skin_tone 💆🏽‍♀️\twoman_golfing 🏌️‍♀️
woman_golfing_dark_skin_tone 🏌🏿‍♀️\twoman_golfing_light_skin_tone 🏌🏻‍♀️
woman_golfing_medium-dark_skin_tone 🏌🏾‍♀️\twoman_golfing_medium-light_skin_tone 🏌🏼‍♀️
woman_golfing_medium_skin_tone 🏌🏽‍♀️\twoman_guard 💂‍♀️\twoman_guard_dark_skin_tone 💂🏿‍♀️
woman_guard_light_skin_tone 💂🏻‍♀️\twoman_guard_medium-dark_skin_tone 💂🏾‍♀️
woman_guard_medium-light_skin_tone 💂🏼‍♀️\twoman_guard_medium_skin_tone 💂🏽‍♀️
woman_health_worker 👩‍⚕️\twoman_health_worker_dark_skin_tone 👩🏿‍⚕️
woman_health_worker_light_skin_tone 👩🏻‍⚕️\twoman_health_worker_medium-dark_skin_tone 👩🏾‍⚕️
woman_health_worker_medium-light_skin_tone 👩🏼‍⚕️\twoman_health_worker_medium_skin_tone 👩🏽‍⚕️
woman_in_lotus_position 🧘‍♀️\twoman_in_lotus_position_dark_skin_tone 🧘🏿‍♀️
woman_in_lotus_position_light_skin_tone 🧘🏻‍♀️
woman_in_lotus_position_medium-dark_skin_tone 🧘🏾‍♀️
woman_in_lotus_position_medium-light_skin_tone 🧘🏼‍♀️
woman_in_lotus_position_medium_skin_tone 🧘🏽‍♀️\twoman_in_manual_wheelchair 👩‍🦽
woman_in_motorized_wheelchair 👩‍🦼\twoman_in_steamy_room 🧖‍♀️
woman_in_steamy_room_dark_skin_tone 🧖🏿‍♀️\twoman_in_steamy_room_light_skin_tone 🧖🏻‍♀️
woman_in_steamy_room_medium-dark_skin_tone 🧖🏾‍♀️
woman_in_steamy_room_medium-light_skin_tone 🧖🏼‍♀️
woman_in_steamy_room_medium_skin_tone 🧖🏽‍♀️\twoman_judge 👩‍⚖️
woman_judge_dark_skin_tone 👩🏿‍⚖️\twoman_judge_light_skin_tone 👩🏻‍⚖️
woman_judge_medium-dark_skin_tone 👩🏾‍⚖️\twoman_judge_medium-light_skin_tone 👩🏼‍⚖️
woman_judge_medium_skin_tone 👩🏽‍⚖️\twoman_juggling 🤹‍♀️\twoman_juggling_dark_skin_tone 🤹🏿‍♀️
woman_juggling_light_skin_tone 🤹🏻‍♀️\twoman_juggling_medium-dark_skin_tone 🤹🏾‍♀️
woman_juggling_medium-light_skin_tone 🤹🏼‍♀️\twoman_juggling_medium_skin_tone 🤹🏽‍♀️
woman_lifting_weights 🏋️‍♀️\twoman_lifting_weights_dark_skin_tone 🏋🏿‍♀️
woman_lifting_weights_light_skin_tone 🏋🏻‍♀️
woman_lifting_weights_medium-dark_skin_tone 🏋🏾‍♀️
woman_lifting_weights_medium-light_skin_tone 🏋🏼‍♀️
woman_lifting_weights_medium_skin_tone 🏋🏽‍♀️\twoman_light_skin_tone 👩🏻\twoman_mage 🧙‍♀️
woman_mage_dark_skin_tone 🧙🏿‍♀️\twoman_mage_light_skin_tone 🧙🏻‍♀️
woman_mage_medium-dark_skin_tone 🧙🏾‍♀️\twoman_mage_medium-light_skin_tone 🧙🏼‍♀️
woman_mage_medium_skin_tone 🧙🏽‍♀️\twoman_mechanic 👩‍🔧\twoman_mechanic_dark_skin_tone 👩🏿‍🔧
woman_mechanic_light_skin_tone 👩🏻‍🔧\twoman_mechanic_medium-dark_skin_tone 👩🏾‍🔧
woman_mechanic_medium-light_skin_tone 👩🏼‍🔧\twoman_mechanic_medium_skin_tone 👩🏽‍🔧
woman_medium-dark_skin_tone 👩🏾\twoman_medium-light_skin_tone 👩🏼\twoman_medium_skin_tone 👩🏽
woman_mountain_biking 🚵‍♀️\twoman_mountain_biking_dark_skin_tone 🚵🏿‍♀️
woman_mountain_biking_light_skin_tone 🚵🏻‍♀️
woman_mountain_biking_medium-dark_skin_tone 🚵🏾‍♀️
woman_mountain_biking_medium-light_skin_tone 🚵🏼‍♀️
woman_mountain_biking_medium_skin_tone 🚵🏽‍♀️\twoman_office_worker 👩‍💼
woman_office_worker_dark_skin_tone 👩🏿‍💼\twoman_office_worker_light_skin_tone 👩🏻‍💼
woman_office_worker_medium-dark_skin_tone 👩🏾‍💼
woman_office_worker_medium-light_skin_tone 👩🏼‍💼\twoman_office_worker_medium_skin_tone 👩🏽‍💼
woman_pilot 👩‍✈️\twoman_pilot_dark_skin_tone 👩🏿‍✈️\twoman_pilot_light_skin_tone 👩🏻‍✈️
woman_pilot_medium-dark_skin_tone 👩🏾‍✈️\twoman_pilot_medium-light_skin_tone 👩🏼‍✈️
woman_pilot_medium_skin_tone 👩🏽‍✈️\twoman_playing_handball 🤾‍♀️
woman_playing_handball_dark_skin_tone 🤾🏿‍♀️\twoman_playing_handball_light_skin_tone 🤾🏻‍♀️
woman_playing_handball_medium-dark_skin_tone 🤾🏾‍♀️
woman_playing_handball_medium-light_skin_tone 🤾🏼‍♀️
woman_playing_handball_medium_skin_tone 🤾🏽‍♀️\twoman_playing_water_polo 🤽‍♀️
woman_playing_water_polo_dark_skin_tone 🤽🏿‍♀️\twoman_playing_water_polo_light_skin_tone 🤽🏻‍♀️
woman_playing_water_polo_medium-dark_skin_tone 🤽🏾‍♀️
woman_playing_water_polo_medium-light_skin_tone 🤽🏼‍♀️
woman_playing_water_polo_medium_skin_tone 🤽🏽‍♀️\twoman_police_officer 👮‍♀️
woman_police_officer_dark_skin_tone 👮🏿‍♀️\twoman_police_officer_light_skin_tone 👮🏻‍♀️
woman_police_officer_medium-dark_skin_tone 👮🏾‍♀️
woman_police_officer_medium-light_skin_tone 👮🏼‍♀️
woman_police_officer_medium_skin_tone 👮🏽‍♀️\twoman_pouting 🙎‍♀️
woman_pouting_dark_skin_tone 🙎🏿‍♀️\twoman_pouting_light_skin_tone 🙎🏻‍♀️
woman_pouting_medium-dark_skin_tone 🙎🏾‍♀️\twoman_pouting_medium-light_skin_tone 🙎🏼‍♀️
woman_pouting_medium_skin_tone 🙎🏽‍♀️\twoman_raising_hand 🙋‍♀️
woman_raising_hand_dark_skin_tone 🙋🏿‍♀️\twoman_raising_hand_light_skin_tone 🙋🏻‍♀️
woman_raising_hand_medium-dark_skin_tone 🙋🏾‍♀️
woman_raising_hand_medium-light_skin_tone 🙋🏼‍♀️\twoman_raising_hand_medium_skin_tone 🙋🏽‍♀️
woman_rowing_boat 🚣‍♀️\twoman_rowing_boat_dark_skin_tone 🚣🏿‍♀️
woman_rowing_boat_light_skin_tone 🚣🏻‍♀️\twoman_rowing_boat_medium-dark_skin_tone 🚣🏾‍♀️
woman_rowing_boat_medium-light_skin_tone 🚣🏼‍♀️\twoman_rowing_boat_medium_skin_tone 🚣🏽‍♀️
woman_running 🏃‍♀️\twoman_running_dark_skin_tone 🏃🏿‍♀️\twoman_running_light_skin_tone 🏃🏻‍♀️
woman_running_medium-dark_skin_tone 🏃🏾‍♀️\twoman_running_medium-light_skin_tone 🏃🏼‍♀️
woman_running_medium_skin_tone 🏃🏽‍♀️\twoman_scientist 👩‍🔬\twoman_scientist_dark_skin_tone 👩🏿‍🔬
woman_scientist_light_skin_tone 👩🏻‍🔬\twoman_scientist_medium-dark_skin_tone 👩🏾‍🔬
woman_scientist_medium-light_skin_tone 👩🏼‍🔬\twoman_scientist_medium_skin_tone 👩🏽‍🔬
woman_shrugging 🤷‍♀️\twoman_shrugging_dark_skin_tone 🤷🏿‍♀️
woman_shrugging_light_skin_tone 🤷🏻‍♀️\twoman_shrugging_medium-dark_skin_tone 🤷🏾‍♀️
woman_shrugging_medium-light_skin_tone 🤷🏼‍♀️\twoman_shrugging_medium_skin_tone 🤷🏽‍♀️
woman_singer 👩‍🎤\twoman_singer_dark_skin_tone 👩🏿‍🎤\twoman_singer_light_skin_tone 👩🏻‍🎤
woman_singer_medium-dark_skin_tone 👩🏾‍🎤\twoman_singer_medium-light_skin_tone 👩🏼‍🎤
woman_singer_medium_skin_tone 👩🏽‍🎤\twoman_student 👩‍🎓\twoman_student_dark_skin_tone 👩🏿‍🎓
woman_student_light_skin_tone 👩🏻‍🎓\twoman_student_medium-dark_skin_tone 👩🏾‍🎓
woman_student_medium-light_skin_tone 👩🏼‍🎓\twoman_student_medium_skin_tone 👩🏽‍🎓
woman_surfing 🏄‍♀️\twoman_surfing_dark_skin_tone 🏄🏿‍♀️\twoman_surfing_light_skin_tone 🏄🏻‍♀️
woman_surfing_medium-dark_skin_tone 🏄🏾‍♀️\twoman_surfing_medium-light_skin_tone 🏄🏼‍♀️
woman_surfing_medium_skin_tone 🏄🏽‍♀️\twoman_swimming 🏊‍♀️\twoman_swimming_dark_skin_tone 🏊🏿‍♀️
woman_swimming_light_skin_tone 🏊🏻‍♀️\twoman_swimming_medium-dark_skin_tone 🏊🏾‍♀️
woman_swimming_medium-light_skin_tone 🏊🏼‍♀️\twoman_swimming_medium_skin_tone 🏊🏽‍♀️
woman_teacher 👩‍🏫\twoman_teacher_dark_skin_tone 👩🏿‍🏫\twoman_teacher_light_skin_tone 👩🏻‍🏫
woman_teacher_medium-dark_skin_tone 👩🏾‍🏫\twoman_teacher_medium-light_skin_tone 👩🏼‍🏫
woman_teacher_medium_skin_tone 👩🏽‍🏫\twoman_technologist 👩‍💻
woman_technologist_dark_skin_tone 👩🏿‍💻\twoman_technologist_light_skin_tone 👩🏻‍💻
woman_technologist_medium-dark_skin_tone 👩🏾‍💻\twoman_technologist_medium-light_skin_tone 👩🏼‍💻
woman_technologist_medium_skin_tone 👩🏽‍💻\twoman_tipping_hand 💁‍♀️
woman_tipping_hand_dark_skin_tone 💁🏿‍♀️\twoman_tipping_hand_light_skin_tone 💁🏻‍♀️
woman_tipping_hand_medium-dark_skin_tone 💁🏾‍♀️
woman_tipping_hand_medium-light_skin_tone 💁🏼‍♀️\twoman_tipping_hand_medium_skin_tone 💁🏽‍♀️
woman_vampire 🧛‍♀️\twoman_vampire_dark_skin_tone 🧛🏿‍♀️\twoman_vampire_light_skin_tone 🧛🏻‍♀️
woman_vampire_medium-dark_skin_tone 🧛🏾‍♀️\twoman_vampire_medium-light_skin_tone 🧛🏼‍♀️
woman_vampire_medium_skin_tone 🧛🏽‍♀️\twoman_walking 🚶‍♀️\twoman_walking_dark_skin_tone 🚶🏿‍♀️
woman_walking_light_skin_tone 🚶🏻‍♀️\twoman_walking_medium-dark_skin_tone 🚶🏾‍♀️
woman_walking_medium-light_skin_tone 🚶🏼‍♀️\twoman_walking_medium_skin_tone 🚶🏽‍♀️
woman_wearing_turban 👳‍♀️\twoman_wearing_turban_dark_skin_tone 👳🏿‍♀️
woman_wearing_turban_light_skin_tone 👳🏻‍♀️\twoman_wearing_turban_medium-dark_skin_tone 👳🏾‍♀️
woman_wearing_turban_medium-light_skin_tone 👳🏼‍♀️
woman_wearing_turban_medium_skin_tone 👳🏽‍♀️\twoman_with_headscarf 🧕
woman_with_headscarf_dark_skin_tone 🧕🏿\twoman_with_headscarf_light_skin_tone 🧕🏻
woman_with_headscarf_medium-dark_skin_tone 🧕🏾\twoman_with_headscarf_medium-light_skin_tone 🧕🏼
woman_with_headscarf_medium_skin_tone 🧕🏽\twoman_with_probing_cane 👩‍🦯\twoman_zombie 🧟‍♀️
woman’s_boot 👢\twoman’s_clothes 👚\twoman’s_hat 👒\twoman’s_sandal 👡\twomen_with_bunny_ears 👯‍♀️
women_wrestling 🤼‍♀️\twomen’s_room 🚺\twoozy_face 🥴\tworld_map 🗺\tworried_face 😟\twrapped_gift 🎁
wrench 🔧\twriting_hand ✍\twriting_hand_dark_skin_tone ✍🏿\twriting_hand_light_skin_tone ✍🏻
writing_hand_medium-dark_skin_tone ✍🏾\twriting_hand_medium-light_skin_tone ✍🏼
writing_hand_medium_skin_tone ✍🏽\tyarn 🧶\tyawning_face 🥱\tyellow_circle 🟡\tyellow_heart 💛
yellow_square 🟨\tyen_banknote 💴\tyo-yo 🪀\tyin_yang ☯\tzany_face 🤪\tzebra 🦓\tzipper-mouth_face 🤐
zombie 🧟\tzzz 💤\tåland_islands 🇦🇽\tkeycap_asterisk *⃣\tkeycap_digit_eight 8⃣
keycap_digit_five 5⃣\tkeycap_digit_four 4⃣\tkeycap_digit_nine 9⃣\tkeycap_digit_one 1⃣
keycap_digit_seven 7⃣\tkeycap_digit_six 6⃣\tkeycap_digit_three 3⃣\tkeycap_digit_two 2⃣
keycap_digit_zero 0⃣\tkeycap_number_sign #⃣\tlight_skin_tone 🏻\tmedium_light_skin_tone 🏼
medium_skin_tone 🏽\tmedium_dark_skin_tone 🏾\tdark_skin_tone 🏿
regional_indicator_symbol_letter_a 🇦\tregional_indicator_symbol_letter_b 🇧
regional_indicator_symbol_letter_c 🇨\tregional_indicator_symbol_letter_d 🇩
regional_indicator_symbol_letter_e 🇪\tregional_indicator_symbol_letter_f 🇫
regional_indicator_symbol_letter_g 🇬\tregional_indicator_symbol_letter_h 🇭
regional_indicator_symbol_letter_i 🇮\tregional_indicator_symbol_letter_j 🇯
regional_indicator_symbol_letter_k 🇰\tregional_indicator_symbol_letter_l 🇱
regional_indicator_symbol_letter_m 🇲\tregional_indicator_symbol_letter_n 🇳
regional_indicator_symbol_letter_o 🇴\tregional_indicator_symbol_letter_p 🇵
regional_indicator_symbol_letter_q 🇶\tregional_indicator_symbol_letter_r 🇷
regional_indicator_symbol_letter_s 🇸\tregional_indicator_symbol_letter_t 🇹
regional_indicator_symbol_letter_u 🇺\tregional_indicator_symbol_letter_v 🇻
regional_indicator_symbol_letter_w 🇼\tregional_indicator_symbol_letter_x 🇽
regional_indicator_symbol_letter_y 🇾\tregional_indicator_symbol_letter_z 🇿
airplane_arriving 🛬\tspace_invader 👾\tfootball 🏈\tanger 💢\tangry 😠\tanguished 😧\tsignal_strength 📶
arrows_counterclockwise 🔄\tarrow_heading_down ⤵\tarrow_heading_up ⤴\tart 🎨\tastonished 😲
athletic_shoe 👟\tatm 🏧\tcar 🚗\tred_car 🚗\tangel 👼\tback 🔙\tbadminton_racquet_and_shuttlecock 🏸
dollar 💵\teuro 💶\tpound 💷\tyen 💴\tbarber 💈\tbath 🛀\tbear 🐻\theartbeat 💓\tbeer 🍺\tno_bell 🔕\tbento 🍱
bike 🚲\tbicyclist 🚴\t8ball 🎱\tbiohazard_sign ☣\tbirthday 🎂\tblack_circle_for_record ⏺\tclubs ♣
diamonds ♦\tarrow_double_down ⏬\thearts ♥\trewind ⏪
black_left__pointing_double_triangle_with_vertical_bar ⏮\tarrow_backward ◀
black_medium_small_square ◾\tquestion ❓\tfast_forward ⏩
black_right__pointing_double_triangle_with_vertical_bar ⏭\tarrow_forward ▶
black_right__pointing_triangle_with_double_vertical_bar ⏯\tarrow_right ➡\tspades ♠
black_square_for_stop ⏹\tsunny ☀\tphone ☎\trecycle ♻\tarrow_double_up ⏫\tbusstop 🚏\tdate 📅\tflags 🎏
cat2 🐈\tjoy_cat 😹\tsmirk_cat 😼\tchart_with_downwards_trend 📉\tchart_with_upwards_trend 📈\tchart 💹
mega 📣\tcheckered_flag 🏁\taccept 🉑\tideograph_advantage 🉐\tcongratulations ㊗\tsecret ㊙\tm Ⓜ
city_sunset 🌆\tclapper 🎬\tclap 👏\tbeers 🍻\tclock830 🕣\tclock8 🕗\tclock1130 🕦\tclock11 🕚\tclock530 🕠
clock5 🕔\tclock430 🕟\tclock4 🕓\tclock930 🕤\tclock9 🕘\tclock130 🕜\tclock1 🕐\tclock730 🕢\tclock7 🕖
clock630 🕡\tclock6 🕕\tclock1030 🕥\tclock10 🕙\tclock330 🕞\tclock3 🕒\tclock1230 🕧\tclock12 🕛
clock230 🕝\tclock2 🕑\tarrows_clockwise 🔃\trepeat 🔁\trepeat_one 🔂\tclosed_lock_with_key 🔐
mailbox_closed 📪\tmailbox 📫\tcloud_with_tornado 🌪\tcocktail 🍸\tboom 💥\tcompression 🗜\tconfounded 😖
confused 😕\trice 🍚\tcow2 🐄\tcricket_bat_and_ball 🏏\tx ❌\tcry 😢\tcurry 🍛\tdagger_knife 🗡\tdancer 💃
dark_sunglasses 🕶\tdash 💨\ttruck 🚚\tderelict_house_building 🏚\tdiamond_shape_with_a_dot_inside 💠
dart 🎯\tdisappointed_relieved 😥\tdisappointed 😞\tdo_not_litter 🚯\tdog2 🐕\tflipper 🐬\tloop ➿
bangbang ‼\tdouble_vertical_bar ⏸\tdove_of_peace 🕊\tsmall_red_triangle_down 🔻
arrow_down_small 🔽\tarrow_down ⬇\tdromedary_camel 🐪\te__mail 📧\tcorn 🌽\tear_of_rice 🌾
earth_americas 🌎\tearth_asia 🌏\tearth_africa 🌍\teight_pointed_black_star ✴
eight_spoked_asterisk ✳\teject_symbol ⏏\tbulb 💡\temoji_modifier_fitzpatrick_type__1__2 🏻
emoji_modifier_fitzpatrick_type__3 🏼\temoji_modifier_fitzpatrick_type__4 🏽
emoji_modifier_fitzpatrick_type__5 🏾\temoji_modifier_fitzpatrick_type__6 🏿\tend 🔚\temail ✉
european_castle 🏰\teuropean_post_office 🏤\tinterrobang ⁉\texpressionless 😑\teyeglasses 👓
massage 💆\tyum 😋\tscream 😱\tkissing_heart 😘\tsweat 😓\tface_with_head__bandage 🤕\ttriumph 😤\tmask 😷
no_good 🙅\tok_woman 🙆\topen_mouth 😮\tcold_sweat 😰\tstuck_out_tongue 😛
stuck_out_tongue_closed_eyes 😝\tstuck_out_tongue_winking_eye 😜\tjoy 😂\tno_mouth 😶\tsanta 🎅\tfax 📠
fearful 😨\tfield_hockey_stick_and_ball 🏑\tfirst_quarter_moon_with_face 🌛\tfish_cake 🍥
fishing_pole_and_fish 🎣\tfacepunch 👊\tpunch 👊\tflag_for_afghanistan 🇦🇫\tflag_for_albania 🇦🇱
flag_for_algeria 🇩🇿\tflag_for_american_samoa 🇦🇸\tflag_for_andorra 🇦🇩\tflag_for_angola 🇦🇴
flag_for_anguilla 🇦🇮\tflag_for_antarctica 🇦🇶\tflag_for_antigua_&_barbuda 🇦🇬
flag_for_argentina 🇦🇷\tflag_for_armenia 🇦🇲\tflag_for_aruba 🇦🇼\tflag_for_ascension_island 🇦🇨
flag_for_australia 🇦🇺\tflag_for_austria 🇦🇹\tflag_for_azerbaijan 🇦🇿\tflag_for_bahamas 🇧🇸
flag_for_bahrain 🇧🇭\tflag_for_bangladesh 🇧🇩\tflag_for_barbados 🇧🇧\tflag_for_belarus 🇧🇾
flag_for_belgium 🇧🇪\tflag_for_belize 🇧🇿\tflag_for_benin 🇧🇯\tflag_for_bermuda 🇧🇲
flag_for_bhutan 🇧🇹\tflag_for_bolivia 🇧🇴\tflag_for_bosnia_&_herzegovina 🇧🇦\tflag_for_botswana 🇧🇼
flag_for_bouvet_island 🇧🇻\tflag_for_brazil 🇧🇷\tflag_for_british_indian_ocean_territory 🇮🇴
flag_for_british_virgin_islands 🇻🇬\tflag_for_brunei 🇧🇳\tflag_for_bulgaria 🇧🇬
flag_for_burkina_faso 🇧🇫\tflag_for_burundi 🇧🇮\tflag_for_cambodia 🇰🇭\tflag_for_cameroon 🇨🇲
flag_for_canada 🇨🇦\tflag_for_canary_islands 🇮🇨\tflag_for_cape_verde 🇨🇻
flag_for_caribbean_netherlands 🇧🇶\tflag_for_cayman_islands 🇰🇾
flag_for_central_african_republic 🇨🇫\tflag_for_ceuta_&_melilla 🇪🇦\tflag_for_chad 🇹🇩
flag_for_chile 🇨🇱\tflag_for_china 🇨🇳\tflag_for_christmas_island 🇨🇽
flag_for_clipperton_island 🇨🇵\tflag_for_cocos__islands 🇨🇨\tflag_for_colombia 🇨🇴
flag_for_comoros 🇰🇲\tflag_for_congo____brazzaville 🇨🇬\tflag_for_congo____kinshasa 🇨🇩
flag_for_cook_islands 🇨🇰\tflag_for_costa_rica 🇨🇷\tflag_for_croatia 🇭🇷\tflag_for_cuba 🇨🇺
flag_for_curaçao 🇨🇼\tflag_for_cyprus 🇨🇾\tflag_for_czech_republic 🇨🇿\tflag_for_côte_d’ivoire 🇨🇮
flag_for_denmark 🇩🇰\tflag_for_diego_garcia 🇩🇬\tflag_for_djibouti 🇩🇯\tflag_for_dominica 🇩🇲
flag_for_dominican_republic 🇩🇴\tflag_for_ecuador 🇪🇨\tflag_for_egypt 🇪🇬\tflag_for_el_salvador 🇸🇻
flag_for_equatorial_guinea 🇬🇶\tflag_for_eritrea 🇪🇷\tflag_for_estonia 🇪🇪\tflag_for_ethiopia 🇪🇹
flag_for_european_union 🇪🇺\tflag_for_falkland_islands 🇫🇰\tflag_for_faroe_islands 🇫🇴
flag_for_fiji 🇫🇯\tflag_for_finland 🇫🇮\tflag_for_france 🇫🇷\tflag_for_french_guiana 🇬🇫
flag_for_french_polynesia 🇵🇫\tflag_for_french_southern_territories 🇹🇫\tflag_for_gabon 🇬🇦
flag_for_gambia 🇬🇲\tflag_for_georgia 🇬🇪\tflag_for_germany 🇩🇪\tflag_for_ghana 🇬🇭
flag_for_gibraltar 🇬🇮\tflag_for_greece 🇬🇷\tflag_for_greenland 🇬🇱\tflag_for_grenada 🇬🇩
flag_for_guadeloupe 🇬🇵\tflag_for_guam 🇬🇺\tflag_for_guatemala 🇬🇹\tflag_for_guernsey 🇬🇬
flag_for_guinea 🇬🇳\tflag_for_guinea__bissau 🇬🇼\tflag_for_guyana 🇬🇾\tflag_for_haiti 🇭🇹
flag_for_heard_&_mcdonald_islands 🇭🇲\tflag_for_honduras 🇭🇳\tflag_for_hong_kong 🇭🇰
flag_for_hungary 🇭🇺\tflag_for_iceland 🇮🇸\tflag_for_india 🇮🇳\tflag_for_indonesia 🇮🇩
flag_for_iran 🇮🇷\tflag_for_iraq 🇮🇶\tflag_for_ireland 🇮🇪\tflag_for_isle_of_man 🇮🇲
flag_for_israel 🇮🇱\tflag_for_italy 🇮🇹\tflag_for_jamaica 🇯🇲\tflag_for_japan 🇯🇵
flag_for_jersey 🇯🇪\tflag_for_jordan 🇯🇴\tflag_for_kazakhstan 🇰🇿\tflag_for_kenya 🇰🇪
flag_for_kiribati 🇰🇮\tflag_for_kosovo 🇽🇰\tflag_for_kuwait 🇰🇼\tflag_for_kyrgyzstan 🇰🇬
flag_for_laos 🇱🇦\tflag_for_latvia 🇱🇻\tflag_for_lebanon 🇱🇧\tflag_for_lesotho 🇱🇸
flag_for_liberia 🇱🇷\tflag_for_libya 🇱🇾\tflag_for_liechtenstein 🇱🇮\tflag_for_lithuania 🇱🇹
flag_for_luxembourg 🇱🇺\tflag_for_macau 🇲🇴\tflag_for_macedonia 🇲🇰\tflag_for_madagascar 🇲🇬
flag_for_malawi 🇲🇼\tflag_for_malaysia 🇲🇾\tflag_for_maldives 🇲🇻\tflag_for_mali 🇲🇱
flag_for_malta 🇲🇹\tflag_for_marshall_islands 🇲🇭\tflag_for_martinique 🇲🇶\tflag_for_mauritania 🇲🇷
flag_for_mauritius 🇲🇺\tflag_for_mayotte 🇾🇹\tflag_for_mexico 🇲🇽\tflag_for_micronesia 🇫🇲
flag_for_moldova 🇲🇩\tflag_for_monaco 🇲🇨\tflag_for_mongolia 🇲🇳\tflag_for_montenegro 🇲🇪
flag_for_montserrat 🇲🇸\tflag_for_morocco 🇲🇦\tflag_for_mozambique 🇲🇿\tflag_for_myanmar 🇲🇲
flag_for_namibia 🇳🇦\tflag_for_nauru 🇳🇷\tflag_for_nepal 🇳🇵\tflag_for_netherlands 🇳🇱
flag_for_new_caledonia 🇳🇨\tflag_for_new_zealand 🇳🇿\tflag_for_nicaragua 🇳🇮\tflag_for_niger 🇳🇪
flag_for_nigeria 🇳🇬\tflag_for_niue 🇳🇺\tflag_for_norfolk_island 🇳🇫\tflag_for_north_korea 🇰🇵
flag_for_northern_mariana_islands 🇲🇵\tflag_for_norway 🇳🇴\tflag_for_oman 🇴🇲
flag_for_pakistan 🇵🇰\tflag_for_palau 🇵🇼\tflag_for_palestinian_territories 🇵🇸
flag_for_panama 🇵🇦\tflag_for_papua_new_guinea 🇵🇬\tflag_for_paraguay 🇵🇾\tflag_for_peru 🇵🇪
flag_for_philippines 🇵🇭\tflag_for_pitcairn_islands 🇵🇳\tflag_for_poland 🇵🇱\tflag_for_portugal 🇵🇹
flag_for_puerto_rico 🇵🇷\tflag_for_qatar 🇶🇦\tflag_for_romania 🇷🇴\tflag_for_russia 🇷🇺
flag_for_rwanda 🇷🇼\tflag_for_réunion 🇷🇪\tflag_for_samoa 🇼🇸\tflag_for_san_marino 🇸🇲
flag_for_saudi_arabia 🇸🇦\tflag_for_senegal 🇸🇳\tflag_for_serbia 🇷🇸\tflag_for_seychelles 🇸🇨
flag_for_sierra_leone 🇸🇱\tflag_for_singapore 🇸🇬\tflag_for_sint_maarten 🇸🇽\tflag_for_slovakia 🇸🇰
flag_for_slovenia 🇸🇮\tflag_for_solomon_islands 🇸🇧\tflag_for_somalia 🇸🇴
flag_for_south_africa 🇿🇦\tflag_for_south_georgia_&_south_sandwich_islands 🇬🇸
flag_for_south_korea 🇰🇷\tflag_for_south_sudan 🇸🇸\tflag_for_spain 🇪🇸\tflag_for_sri_lanka 🇱🇰
flag_for_st._barthélemy 🇧🇱\tflag_for_st._helena 🇸🇭\tflag_for_st._kitts_&_nevis 🇰🇳
flag_for_st._lucia 🇱🇨\tflag_for_st._martin 🇲🇫\tflag_for_st._pierre_&_miquelon 🇵🇲
flag_for_st._vincent_&_grenadines 🇻🇨\tflag_for_sudan 🇸🇩\tflag_for_suriname 🇸🇷
flag_for_svalbard_&_jan_mayen 🇸🇯\tflag_for_swaziland 🇸🇿\tflag_for_sweden 🇸🇪
flag_for_switzerland 🇨🇭\tflag_for_syria 🇸🇾\tflag_for_são_tomé_&_príncipe 🇸🇹\tflag_for_taiwan 🇹🇼
flag_for_tajikistan 🇹🇯\tflag_for_tanzania 🇹🇿\tflag_for_thailand 🇹🇭\tflag_for_timor__leste 🇹🇱
flag_for_togo 🇹🇬\tflag_for_tokelau 🇹🇰\tflag_for_tonga 🇹🇴\tflag_for_trinidad_&_tobago 🇹🇹
flag_for_tristan_da_cunha 🇹🇦\tflag_for_tunisia 🇹🇳\tflag_for_turkey 🇹🇷\tflag_for_turkmenistan 🇹🇲
flag_for_turks_&_caicos_islands 🇹🇨\tflag_for_tuvalu 🇹🇻\tflag_for_u.s._outlying_islands 🇺🇲
flag_for_u.s._virgin_islands 🇻🇮\tflag_for_uganda 🇺🇬\tflag_for_ukraine 🇺🇦
flag_for_united_arab_emirates 🇦🇪\tflag_for_united_kingdom 🇬🇧\tflag_for_united_states 🇺🇸
flag_for_uruguay 🇺🇾\tflag_for_uzbekistan 🇺🇿\tflag_for_vanuatu 🇻🇺\tflag_for_vatican_city 🇻🇦
flag_for_venezuela 🇻🇪\tflag_for_vietnam 🇻🇳\tflag_for_wallis_&_futuna 🇼🇫
flag_for_western_sahara 🇪🇭\tflag_for_yemen 🇾🇪\tflag_for_zambia 🇿🇲\tflag_for_zimbabwe 🇿🇼
flag_for_åland_islands 🇦🇽\tgolf ⛳\tfleur__de__lis ⚜\tmuscle 💪\tflushed 😳\tframe_with_picture 🖼
fries 🍟\tfrog 🐸\thatched_chick 🐥\tfrowning 😦\tfuelpump ⛽\tfull_moon_with_face 🌝\tgem 💎\tstar2 🌟
golfer 🏌\tmortar_board 🎓\tgrimacing 😬\tsmile_cat 😸\tgrinning 😀\tgrin 😁\theartpulse 💗\tguardsman 💂
haircut 💇\thamster 🐹\traising_hand 🙋\theadphones 🎧\thear_no_evil 🙉\tcupid 💘\tgift_heart 💝\theart ❤
exclamation ❗\theavy_exclamation_mark ❗\theavy_heart_exclamation_mark_ornament ❣\to ⭕
helm_symbol ⎈\thelmet_with_white_cross ⛑\thigh_heel 👠\tbullettrain_side 🚄\tbullettrain_front 🚅
high_brightness 🔆\tzap ⚡\thocho 🔪\tknife 🔪\tbee 🐝\ttraffic_light 🚥\tracehorse 🐎\tcoffee ☕
hotsprings ♨\thourglass ⌛\thourglass_flowing_sand ⏳\thouse_buildings 🏘\t100 💯\thushed 😯
ice_hockey_stick_and_puck 🏒\timp 👿\tinformation_desk_person 💁\tinformation_source ℹ
capital_abcd 🔠\tabc 🔤\tabcd 🔡\t1234 🔢\tsymbols 🔣\tizakaya_lantern 🏮\tlantern 🏮\tjack_o_lantern 🎃
dolls 🎎\tjapanese_goblin 👺\tjapanese_ogre 👹\tbeginner 🔰\tzero 0️⃣\tone 1️⃣\tten 🔟\ttwo 2️⃣
three 3️⃣\tfour 4️⃣\tfive 5️⃣\tsix 6️⃣\tseven 7️⃣\teight 8️⃣\tnine 9️⃣\tcouplekiss 💏\tkissing_cat 😽
kissing 😗\tkissing_closed_eyes 😚\tkissing_smiling_eyes 😙\tbeetle 🐞\tlarge_blue_circle 🔵
last_quarter_moon_with_face 🌜\tleaves 🍃\tmag 🔍\tleft_right_arrow ↔\tleftwards_arrow_with_hook ↩
arrow_left ⬅\tlock 🔒\tlock_with_ink_pen 🔏\tsob 😭\tlow_brightness 🔅\tlower_left_ballpoint_pen 🖊
lower_left_crayon 🖍\tlower_left_fountain_pen 🖋\tlower_left_paintbrush 🖌\tmahjong 🀄\tcouple 👫
man_in_business_suit_levitating 🕴\tman_with_gua_pi_mao 👲\tman_with_turban 👳\tmans_shoe 👞\tshoe 👞
menorah_with_nine_branches 🕎\tmens 🚹\tminidisc 💽\tiphone 📱\tcalling 📲\tmoney__mouth_face 🤑
moneybag 💰\trice_scene 🎑\tmountain_bicyclist 🚵\tmouse2 🐁\tlips 👄\tmoyai 🗿\tnotes 🎶\tnail_care 💅
ab 🆎\tnegative_squared_cross_mark ❎\ta 🅰\tb 🅱\to2 🅾\tparking 🅿\tnew_moon_with_face 🌚
no_entry_sign 🚫\tunderage 🔞\tnon__potable_water 🚱\tarrow_upper_right ↗\tarrow_upper_left ↖
office 🏢\tolder_man 👴\tolder_woman 👵\tom_symbol 🕉\ton 🔛\tbook 📖\tunlock 🔓\tmailbox_with_no_mail 📭
mailbox_with_mail 📬\tcd 💿\ttada 🎉\tfeet 🐾\twalking 🚶\tpencil2 ✏\tpensive 😔\tpersevere 😣\tbow 🙇
raised_hands 🙌\tperson_with_ball ⛹\tperson_with_blond_hair 👱\tpray 🙏\tperson_with_pouting_face 🙎
computer 💻\tpig2 🐖\thankey 💩\tpoop 💩\tshit 💩\tbamboo 🎍\tgun 🔫\tblack_joker 🃏\trotating_light 🚨
cop 👮
stew 🍲\tpouch 👝\tpouting_cat 😾\trage 😡\tput_litter_in_its_place 🚮\trabbit2 🐇\tracing_motorcycle 🏍
radioactive_sign ☢\tfist ✊\thand ✋\traised_hand_with_fingers_splayed 🖐
raised_hand_with_part_between_middle_and_ring_fingers 🖖\tblue_car 🚙\tapple 🍎\trelieved 😌
reversed_hand_with_middle_finger_extended 🖕\tmag_right 🔎\tarrow_right_hook ↪\tsweet_potato 🍠
robot 🤖\trolled__up_newspaper 🗞\trowboat 🚣\trunner 🏃\trunning 🏃\trunning_shirt_with_sash 🎽\tboat ⛵
scales ⚖\tschool_satchel 🎒\tscorpius ♏\tsee_no_evil 🙈\tsheep 🐑\tstars 🌠\tcake 🍰
six_pointed_star 🔯
ski 🎿\tsleeping_accommodation 🛌\tsleeping 😴\tsleepy 😪\tsleuth_or_spy 🕵\theart_eyes_cat 😻
smiley_cat 😺\tinnocent 😇\theart_eyes 😍\tsmiling_imp 😈\tsmiley 😃\tsweat_smile 😅\tsmile 😄
laughing 😆
satisfied 😆\tblush 😊\tsmirk 😏\tsmoking 🚬\tsnow_capped_mountain 🏔\tsoccer ⚽\ticecream 🍦\tsoon 🔜
arrow_lower_right ↘\tarrow_lower_left ↙\tspeak_no_evil 🙊\tspeaker 🔈\tmute 🔇\tsound 🔉\tloud_sound 🔊
speaking_head_in_silhouette 🗣\tspiral_calendar_pad 🗓\tspiral_note_pad 🗒\tshell 🐚\tsweat_drops 💦
u5272 🈹\tu5408 🈴\tu55b6 🈺\tu6307 🈯\tu6708 🈷\tu6709 🈶\tu6e80 🈵\tu7121 🈚\tu7533 🈸\tu7981 🈲
u7a7a 🈳\tcl 🆑
cool 🆒\tfree 🆓\tid 🆔\tkoko 🈁\tsa 🈂\tnew 🆕\tng 🆖\tok 🆗\tsos 🆘\tup 🆙\tvs 🆚\tsteam_locomotive 🚂
ramen 🍜
partly_sunny ⛅\tcity_sunrise 🌇\tsurfer 🏄\tswimmer 🏊\tshirt 👕\ttshirt 👕
table_tennis_paddle_and_ball 🏓\ttea 🍵\ttv 📺\tthree_button_mouse 🖱\t+1 👍\tthumbsup 👍\t__1 👎\t-1 👎
thumbsdown 👎\tthunder_cloud_and_rain ⛈\ttiger2 🐅\ttophat 🎩\ttop 🔝\ttm ™\ttrain2 🚆
triangular_flag_on_post 🚩\ttrident 🔱\ttwisted_rightwards_arrows 🔀\tunamused 😒
small_red_triangle 🔺\tarrow_up_small 🔼\tarrow_up_down ↕\tupside__down_face 🙃\tarrow_up ⬆\tv ✌
vhs 📼\twc 🚾\tocean 🌊\twaving_black_flag 🏴\twave 👋\twaving_white_flag 🏳\tmoon 🌔\tscream_cat 🙀
weary 😩\tweight_lifter 🏋\twhale2 🐋\twheelchair ♿\tpoint_down 👇\tgrey_exclamation ❕
white_frowning_face ☹\twhite_check_mark ✅\tpoint_left 👈\twhite_medium_small_square ◽\tstar ⭐
grey_question ❔\tpoint_right 👉\trelaxed ☺\twhite_sun_behind_cloud 🌥
white_sun_behind_cloud_with_rain 🌦\twhite_sun_with_small_cloud 🌤\tpoint_up_2 👆\tpoint_up ☝
wind_blowing_face 🌬\twink 😉\twolf 🐺\tdancers 👯\tboot 👢\twomans_clothes 👚\twomans_hat 👒\tsandal 👡
womens 🚺\tworried 😟\tgift 🎁\tzipper__mouth_face 🤐\tregional_indicator_a 🇦\tregional_indicator_b 🇧
regional_indicator_c 🇨\tregional_indicator_d 🇩\tregional_indicator_e 🇪\tregional_indicator_f 🇫
regional_indicator_g 🇬\tregional_indicator_h 🇭\tregional_indicator_i 🇮\tregional_indicator_j 🇯
regional_indicator_k 🇰\tregional_indicator_l 🇱\tregional_indicator_m 🇲\tregional_indicator_n 🇳
regional_indicator_o 🇴\tregional_indicator_p 🇵\tregional_indicator_q 🇶\tregional_indicator_r 🇷
regional_indicator_s 🇸\tregional_indicator_t 🇹\tregional_indicator_u 🇺\tregional_indicator_v 🇻
regional_indicator_w 🇼\tregional_indicator_x 🇽\tregional_indicator_y 🇾\tregional_indicator_z 🇿"

def entryPictograph? (name : List Char) (entry : List Char) : Option (List Char) :=
  if entry.takeWhile (· != ' ') = name then some ((entry.dropWhile (· != ' ')).drop 1) else none

def pictograph? (name : List Char) : Option (List Char) :=
  (pictographTable.toList.splitOnP fun c => c == '\t' || c == '\n').findSome?
    (entryPictograph? name)

end ComponentLinks.Terminal
