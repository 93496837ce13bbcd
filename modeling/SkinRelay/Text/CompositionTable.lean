import SkinRelay.Text.Rows

/-!
Characters that are composed of two others, and the classes of the marks by which these are put in
order.
-/

namespace SkinRelay.Text

/-- A row is the two parts and the character that they make. -/
def compositionRows : List (List Nat) := rows
  "65 768 192; 65 769 193; 65 770 194; 65 771 195; 65 776 196; 65 778 197; 67 807 199; 69 768 200;
   69 769 201; 69 770 202; 69 776 203; 73 768 204; 73 769 205; 73 770 206; 73 776 207; 78 771 209;
   79 768 210; 79 769 211; 79 770 212; 79 771 213; 79 776 214; 85 768 217; 85 769 218; 85 770 219;
   85 776 220; 89 769 221; 97 768 224; 97 769 225; 97 770 226; 97 771 227; 97 776 228; 97 778 229;
   99 807 231; 101 768 232; 101 769 233; 101 770 234; 101 776 235; 105 768 236; 105 769 237;
   105 770 238; 105 776 239; 110 771 241; 111 768 242; 111 769 243; 111 770 244; 111 771 245;
   111 776 246; 117 768 249; 117 769 250; 117 770 251; 117 776 252; 121 769 253; 121 776 255;
   65 772 256; 97 772 257; 65 774 258; 97 774 259; 65 808 260; 97 808 261; 67 769 262; 99 769 263;
   67 770 264; 99 770 265; 67 775 266; 99 775 267; 67 780 268; 99 780 269; 68 780 270; 100 780 271;
   69 772 274; 101 772 275; 69 774 276; 101 774 277; 69 775 278; 101 775 279; 69 808 280;
   101 808 281; 69 780 282; 101 780 283; 71 770 284; 103 770 285; 71 774 286; 103 774 287;
   71 775 288; 103 775 289; 71 807 290; 103 807 291; 72 770 292; 104 770 293; 73 771 296;
   105 771 297; 73 772 298; 105 772 299; 73 774 300; 105 774 301; 73 808 302; 105 808 303;
   73 775 304; 74 770 308; 106 770 309; 75 807 310; 107 807 311; 76 769 313; 108 769 314;
   76 807 315; 108 807 316; 76 780 317; 108 780 318; 78 769 323; 110 769 324; 78 807 325;
   110 807 326; 78 780 327; 110 780 328; 79 772 332; 111 772 333; 79 774 334; 111 774 335;
   79 779 336; 111 779 337; 82 769 340; 114 769 341; 82 807 342; 114 807 343; 82 780 344;
   114 780 345; 83 769 346; 115 769 347; 83 770 348; 115 770 349; 83 807 350; 115 807 351;
   83 780 352; 115 780 353; 84 807 354; 116 807 355; 84 780 356; 116 780 357; 85 771 360;
   117 771 361; 85 772 362; 117 772 363; 85 774 364; 117 774 365; 85 778 366; 117 778 367;
   85 779 368; 117 779 369; 85 808 370; 117 808 371; 87 770 372; 119 770 373; 89 770 374;
   121 770 375; 89 776 376; 90 769 377; 122 769 378; 90 775 379; 122 775 380; 90 780 381;
   122 780 382; 79 795 416; 111 795 417; 85 795 431; 117 795 432; 65 780 461; 97 780 462;
   73 780 463; 105 780 464; 79 780 465; 111 780 466; 85 780 467; 117 780 468; 220 772 469;
   252 772 470; 220 769 471; 252 769 472; 220 780 473; 252 780 474; 220 768 475; 252 768 476;
   196 772 478; 228 772 479; 550 772 480; 551 772 481; 198 772 482; 230 772 483; 71 780 486;
   103 780 487; 75 780 488; 107 780 489; 79 808 490; 111 808 491; 490 772 492; 491 772 493;
   439 780 494; 658 780 495; 106 780 496; 71 769 500; 103 769 501; 78 768 504; 110 768 505;
   197 769 506; 229 769 507; 198 769 508; 230 769 509; 216 769 510; 248 769 511; 65 783 512;
   97 783 513; 65 785 514; 97 785 515; 69 783 516; 101 783 517; 69 785 518; 101 785 519;
   73 783 520; 105 783 521; 73 785 522; 105 785 523; 79 783 524; 111 783 525; 79 785 526;
   111 785 527; 82 783 528; 114 783 529; 82 785 530; 114 785 531; 85 783 532; 117 783 533;
   85 785 534; 117 785 535; 83 806 536; 115 806 537; 84 806 538; 116 806 539; 72 780 542;
   104 780 543; 65 775 550; 97 775 551; 69 807 552; 101 807 553; 214 772 554; 246 772 555;
   213 772 556; 245 772 557; 79 775 558; 111 775 559; 558 772 560; 559 772 561; 89 772 562;
   121 772 563; 168 769 901; 913 769 902; 917 769 904; 919 769 905; 921 769 906; 927 769 908;
   933 769 910; 937 769 911; 970 769 912; 921 776 938; 933 776 939; 945 769 940; 949 769 941;
   951 769 942; 953 769 943; 971 769 944; 953 776 970; 965 776 971; 959 769 972; 965 769 973;
   969 769 974; 978 769 979; 978 776 980; 1045 768 1024; 1045 776 1025; 1043 769 1027;
   1030 776 1031; 1050 769 1036; 1048 768 1037; 1059 774 1038; 1048 774 1049; 1080 774 1081;
   1077 768 1104; 1077 776 1105; 1075 769 1107; 1110 776 1111; 1082 769 1116; 1080 768 1117;
   1091 774 1118; 1140 783 1142; 1141 783 1143; 1046 774 1217; 1078 774 1218; 1040 774 1232;
   1072 774 1233; 1040 776 1234; 1072 776 1235; 1045 774 1238; 1077 774 1239; 1240 776 1242;
   1241 776 1243; 1046 776 1244; 1078 776 1245; 1047 776 1246; 1079 776 1247; 1048 772 1250;
   1080 772 1251; 1048 776 1252; 1080 776 1253; 1054 776 1254; 1086 776 1255; 1256 776 1258;
   1257 776 1259; 1069 776 1260; 1101 776 1261; 1059 772 1262; 1091 772 1263; 1059 776 1264;
   1091 776 1265; 1059 779 1266; 1091 779 1267; 1063 776 1268; 1095 776 1269; 1067 776 1272;
   1099 776 1273; 1575 1619 1570; 1575 1620 1571; 1608 1620 1572; 1575 1621 1573; 1610 1620 1574;
   1749 1620 1728; 1729 1620 1730; 1746 1620 1747; 2344 2364 2345; 2352 2364 2353; 2355 2364 2356;
   2503 2494 2507; 2503 2519 2508; 2887 2902 2888; 2887 2878 2891; 2887 2903 2892; 2962 3031 2964;
   3014 3006 3018; 3015 3006 3019; 3014 3031 3020; 3142 3158 3144; 3263 3285 3264; 3270 3285 3271;
   3270 3286 3272; 3270 3266 3274; 3274 3285 3275; 3398 3390 3402; 3399 3390 3403; 3398 3415 3404;
   3545 3530 3546; 3545 3535 3548; 3548 3530 3549; 3545 3551 3550; 4133 4142 4134; 6917 6965 6918;
   6919 6965 6920; 6921 6965 6922; 6923 6965 6924; 6925 6965 6926; 6929 6965 6930; 6970 6965 6971;
   6972 6965 6973; 6974 6965 6976; 6975 6965 6977; 6978 6965 6979; 65 805 7680; 97 805 7681;
   66 775 7682; 98 775 7683; 66 803 7684; 98 803 7685; 66 817 7686; 98 817 7687; 199 769 7688;
   231 769 7689; 68 775 7690; 100 775 7691; 68 803 7692; 100 803 7693; 68 817 7694; 100 817 7695;
   68 807 7696; 100 807 7697; 68 813 7698; 100 813 7699; 274 768 7700; 275 768 7701; 274 769 7702;
   275 769 7703; 69 813 7704; 101 813 7705; 69 816 7706; 101 816 7707; 552 774 7708; 553 774 7709;
   70 775 7710; 102 775 7711; 71 772 7712; 103 772 7713; 72 775 7714; 104 775 7715; 72 803 7716;
   104 803 7717; 72 776 7718; 104 776 7719; 72 807 7720; 104 807 7721; 72 814 7722; 104 814 7723;
   73 816 7724; 105 816 7725; 207 769 7726; 239 769 7727; 75 769 7728; 107 769 7729; 75 803 7730;
   107 803 7731; 75 817 7732; 107 817 7733; 76 803 7734; 108 803 7735; 7734 772 7736;
   7735 772 7737; 76 817 7738; 108 817 7739; 76 813 7740; 108 813 7741; 77 769 7742; 109 769 7743;
   77 775 7744; 109 775 7745; 77 803 7746; 109 803 7747; 78 775 7748; 110 775 7749; 78 803 7750;
   110 803 7751; 78 817 7752; 110 817 7753; 78 813 7754; 110 813 7755; 213 769 7756; 245 769 7757;
   213 776 7758; 245 776 7759; 332 768 7760; 333 768 7761; 332 769 7762; 333 769 7763; 80 769 7764;
   112 769 7765; 80 775 7766; 112 775 7767; 82 775 7768; 114 775 7769; 82 803 7770; 114 803 7771;
   7770 772 7772; 7771 772 7773; 82 817 7774; 114 817 7775; 83 775 7776; 115 775 7777; 83 803 7778;
   115 803 7779; 346 775 7780; 347 775 7781; 352 775 7782; 353 775 7783; 7778 775 7784;
   7779 775 7785; 84 775 7786; 116 775 7787; 84 803 7788; 116 803 7789; 84 817 7790; 116 817 7791;
   84 813 7792; 116 813 7793; 85 804 7794; 117 804 7795; 85 816 7796; 117 816 7797; 85 813 7798;
   117 813 7799; 360 769 7800; 361 769 7801; 362 776 7802; 363 776 7803; 86 771 7804; 118 771 7805;
   86 803 7806; 118 803 7807; 87 768 7808; 119 768 7809; 87 769 7810; 119 769 7811; 87 776 7812;
   119 776 7813; 87 775 7814; 119 775 7815; 87 803 7816; 119 803 7817; 88 775 7818; 120 775 7819;
   88 776 7820; 120 776 7821; 89 775 7822; 121 775 7823; 90 770 7824; 122 770 7825; 90 803 7826;
   122 803 7827; 90 817 7828; 122 817 7829; 104 817 7830; 116 776 7831; 119 778 7832; 121 778 7833;
   383 775 7835; 65 803 7840; 97 803 7841; 65 777 7842; 97 777 7843; 194 769 7844; 226 769 7845;
   194 768 7846; 226 768 7847; 194 777 7848; 226 777 7849; 194 771 7850; 226 771 7851;
   7840 770 7852; 7841 770 7853; 258 769 7854; 259 769 7855; 258 768 7856; 259 768 7857;
   258 777 7858; 259 777 7859; 258 771 7860; 259 771 7861; 7840 774 7862; 7841 774 7863;
   69 803 7864; 101 803 7865; 69 777 7866; 101 777 7867; 69 771 7868; 101 771 7869; 202 769 7870;
   234 769 7871; 202 768 7872; 234 768 7873; 202 777 7874; 234 777 7875; 202 771 7876;
   234 771 7877; 7864 770 7878; 7865 770 7879; 73 777 7880; 105 777 7881; 73 803 7882;
   105 803 7883; 79 803 7884; 111 803 7885; 79 777 7886; 111 777 7887; 212 769 7888; 244 769 7889;
   212 768 7890; 244 768 7891; 212 777 7892; 244 777 7893; 212 771 7894; 244 771 7895;
   7884 770 7896; 7885 770 7897; 416 769 7898; 417 769 7899; 416 768 7900; 417 768 7901;
   416 777 7902; 417 777 7903; 416 771 7904; 417 771 7905; 416 803 7906; 417 803 7907; 85 803 7908;
   117 803 7909; 85 777 7910; 117 777 7911; 431 769 7912; 432 769 7913; 431 768 7914; 432 768 7915;
   431 777 7916; 432 777 7917; 431 771 7918; 432 771 7919; 431 803 7920; 432 803 7921; 89 768 7922;
   121 768 7923; 89 803 7924; 121 803 7925; 89 777 7926; 121 777 7927; 89 771 7928; 121 771 7929;
   945 787 7936; 945 788 7937; 7936 768 7938; 7937 768 7939; 7936 769 7940; 7937 769 7941;
   7936 834 7942; 7937 834 7943; 913 787 7944; 913 788 7945; 7944 768 7946; 7945 768 7947;
   7944 769 7948; 7945 769 7949; 7944 834 7950; 7945 834 7951; 949 787 7952; 949 788 7953;
   7952 768 7954; 7953 768 7955; 7952 769 7956; 7953 769 7957; 917 787 7960; 917 788 7961;
   7960 768 7962; 7961 768 7963; 7960 769 7964; 7961 769 7965; 951 787 7968; 951 788 7969;
   7968 768 7970; 7969 768 7971; 7968 769 7972; 7969 769 7973; 7968 834 7974; 7969 834 7975;
   919 787 7976; 919 788 7977; 7976 768 7978; 7977 768 7979; 7976 769 7980; 7977 769 7981;
   7976 834 7982; 7977 834 7983; 953 787 7984; 953 788 7985; 7984 768 7986; 7985 768 7987;
   7984 769 7988; 7985 769 7989; 7984 834 7990; 7985 834 7991; 921 787 7992; 921 788 7993;
   7992 768 7994; 7993 768 7995; 7992 769 7996; 7993 769 7997; 7992 834 7998; 7993 834 7999;
   959 787 8000; 959 788 8001; 8000 768 8002; 8001 768 8003; 8000 769 8004; 8001 769 8005;
   927 787 8008; 927 788 8009; 8008 768 8010; 8009 768 8011; 8008 769 8012; 8009 769 8013;
   965 787 8016; 965 788 8017; 8016 768 8018; 8017 768 8019; 8016 769 8020; 8017 769 8021;
   8016 834 8022; 8017 834 8023; 933 788 8025; 8025 768 8027; 8025 769 8029; 8025 834 8031;
   969 787 8032; 969 788 8033; 8032 768 8034; 8033 768 8035; 8032 769 8036; 8033 769 8037;
   8032 834 8038; 8033 834 8039; 937 787 8040; 937 788 8041; 8040 768 8042; 8041 768 8043;
   8040 769 8044; 8041 769 8045; 8040 834 8046; 8041 834 8047; 945 768 8048; 949 768 8050;
   951 768 8052; 953 768 8054; 959 768 8056; 965 768 8058; 969 768 8060; 7936 837 8064;
   7937 837 8065; 7938 837 8066; 7939 837 8067; 7940 837 8068; 7941 837 8069; 7942 837 8070;
   7943 837 8071; 7944 837 8072; 7945 837 8073; 7946 837 8074; 7947 837 8075; 7948 837 8076;
   7949 837 8077; 7950 837 8078; 7951 837 8079; 7968 837 8080; 7969 837 8081; 7970 837 8082;
   7971 837 8083; 7972 837 8084; 7973 837 8085; 7974 837 8086; 7975 837 8087; 7976 837 8088;
   7977 837 8089; 7978 837 8090; 7979 837 8091; 7980 837 8092; 7981 837 8093; 7982 837 8094;
   7983 837 8095; 8032 837 8096; 8033 837 8097; 8034 837 8098; 8035 837 8099; 8036 837 8100;
   8037 837 8101; 8038 837 8102; 8039 837 8103; 8040 837 8104; 8041 837 8105; 8042 837 8106;
   8043 837 8107; 8044 837 8108; 8045 837 8109; 8046 837 8110; 8047 837 8111; 945 774 8112;
   945 772 8113; 8048 837 8114; 945 837 8115; 940 837 8116; 945 834 8118; 8118 837 8119;
   913 774 8120; 913 772 8121; 913 768 8122; 913 837 8124; 168 834 8129; 8052 837 8130;
   951 837 8131; 942 837 8132; 951 834 8134; 8134 837 8135; 917 768 8136; 919 768 8138;
   919 837 8140; 8127 768 8141; 8127 769 8142; 8127 834 8143; 953 774 8144; 953 772 8145;
   970 768 8146; 953 834 8150; 970 834 8151; 921 774 8152; 921 772 8153; 921 768 8154;
   8190 768 8157; 8190 769 8158; 8190 834 8159; 965 774 8160; 965 772 8161; 971 768 8162;
   961 787 8164; 961 788 8165; 965 834 8166; 971 834 8167; 933 774 8168; 933 772 8169;
   933 768 8170; 929 788 8172; 168 768 8173; 8060 837 8178; 969 837 8179; 974 837 8180;
   969 834 8182; 8182 837 8183; 927 768 8184; 937 768 8186; 937 837 8188; 8592 824 8602;
   8594 824 8603; 8596 824 8622; 8656 824 8653; 8660 824 8654; 8658 824 8655; 8707 824 8708;
   8712 824 8713; 8715 824 8716; 8739 824 8740; 8741 824 8742; 8764 824 8769; 8771 824 8772;
   8773 824 8775; 8776 824 8777; 61 824 8800; 8801 824 8802; 8781 824 8813; 60 824 8814;
   62 824 8815; 8804 824 8816; 8805 824 8817; 8818 824 8820; 8819 824 8821; 8822 824 8824;
   8823 824 8825; 8826 824 8832; 8827 824 8833; 8834 824 8836; 8835 824 8837; 8838 824 8840;
   8839 824 8841; 8866 824 8876; 8872 824 8877; 8873 824 8878; 8875 824 8879; 8828 824 8928;
   8829 824 8929; 8849 824 8930; 8850 824 8931; 8882 824 8938; 8883 824 8939; 8884 824 8940;
   8885 824 8941; 12363 12441 12364; 12365 12441 12366; 12367 12441 12368; 12369 12441 12370;
   12371 12441 12372; 12373 12441 12374; 12375 12441 12376; 12377 12441 12378; 12379 12441 12380;
   12381 12441 12382; 12383 12441 12384; 12385 12441 12386; 12388 12441 12389; 12390 12441 12391;
   12392 12441 12393; 12399 12441 12400; 12399 12442 12401; 12402 12441 12403; 12402 12442 12404;
   12405 12441 12406; 12405 12442 12407; 12408 12441 12409; 12408 12442 12410; 12411 12441 12412;
   12411 12442 12413; 12358 12441 12436; 12445 12441 12446; 12459 12441 12460; 12461 12441 12462;
   12463 12441 12464; 12465 12441 12466; 12467 12441 12468; 12469 12441 12470; 12471 12441 12472;
   12473 12441 12474; 12475 12441 12476; 12477 12441 12478; 12479 12441 12480; 12481 12441 12482;
   12484 12441 12485; 12486 12441 12487; 12488 12441 12489; 12495 12441 12496; 12495 12442 12497;
   12498 12441 12499; 12498 12442 12500; 12501 12441 12502; 12501 12442 12503; 12504 12441 12505;
   12504 12442 12506; 12507 12441 12508; 12507 12442 12509; 12454 12441 12532; 12527 12441 12535;
   12528 12441 12536; 12529 12441 12537; 12530 12441 12538; 12541 12441 12542; 67026 775 67017;
   67034 775 67044; 69785 69818 69786; 69787 69818 69788; 69797 69818 69803; 69937 69927 69934;
   69938 69927 69935; 70471 70462 70475; 70471 70487 70476; 70530 70601 70531; 70532 70587 70533;
   70539 70594 70542; 70544 70601 70545; 70594 70594 70597; 70594 70584 70599; 70594 70601 70600;
   70841 70842 70843; 70841 70832 70844; 70841 70845 70846; 71096 71087 71098; 71097 71087 71099;
   71989 71984 71992; 90398 90398 90401; 90398 90409 90402; 90398 90399 90403; 90409 90399 90404;
   90398 90400 90405; 90401 90399 90406; 90402 90399 90407; 90401 90400 90408; 93543 93543 93544;
   93539 93543 93545; 93545 93543 93546;"

/-- A row is the first and the last character of a run, and the class that they all have. Other
characters have the class zero. -/
def markClassRows : List (List Nat) := rows
  "768 788 230; 789 789 232; 790 793 220; 794 794 232; 795 795 216; 796 800 220; 801 802 202;
   803 806 220; 807 808 202; 809 819 220; 820 824 1; 825 828 220; 829 831 230; 834 834 230;
   837 837 240; 838 838 230; 839 841 220; 842 844 230; 845 846 220; 848 850 230; 851 854 220;
   855 855 230; 856 856 232; 857 858 220; 859 859 230; 860 860 233; 861 862 234; 863 863 233;
   864 865 234; 866 866 233; 867 879 230; 1155 1159 230; 1425 1425 220; 1426 1429 230;
   1430 1430 220; 1431 1433 230; 1434 1434 222; 1435 1435 220; 1436 1441 230; 1442 1447 220;
   1448 1449 230; 1450 1450 220; 1451 1452 230; 1453 1453 222; 1454 1454 228; 1455 1455 230;
   1456 1456 10; 1457 1457 11; 1458 1458 12; 1459 1459 13; 1460 1460 14; 1461 1461 15;
   1462 1462 16; 1463 1463 17; 1464 1464 18; 1465 1466 19; 1467 1467 20; 1468 1468 21;
   1469 1469 22; 1471 1471 23; 1473 1473 24; 1474 1474 25; 1476 1476 230; 1477 1477 220;
   1479 1479 18; 1552 1559 230; 1560 1560 30; 1561 1561 31; 1562 1562 32; 1611 1611 27;
   1612 1612 28; 1613 1613 29; 1614 1614 30; 1615 1615 31; 1616 1616 32; 1617 1617 33;
   1618 1618 34; 1619 1620 230; 1621 1622 220; 1623 1627 230; 1628 1628 220; 1629 1630 230;
   1631 1631 220; 1648 1648 35; 1750 1756 230; 1759 1762 230; 1763 1763 220; 1764 1764 230;
   1767 1768 230; 1770 1770 220; 1771 1772 230; 1773 1773 220; 1809 1809 36; 1840 1840 230;
   1841 1841 220; 1842 1843 230; 1844 1844 220; 1845 1846 230; 1847 1849 220; 1850 1850 230;
   1851 1852 220; 1853 1853 230; 1854 1854 220; 1855 1857 230; 1858 1858 220; 1859 1859 230;
   1860 1860 220; 1861 1861 230; 1862 1862 220; 1863 1863 230; 1864 1864 220; 1865 1866 230;
   2027 2033 230; 2034 2034 220; 2035 2035 230; 2045 2045 220; 2070 2073 230; 2075 2083 230;
   2085 2087 230; 2089 2093 230; 2137 2139 220; 2199 2200 230; 2201 2203 220; 2204 2207 230;
   2250 2254 230; 2255 2259 220; 2260 2273 230; 2275 2275 220; 2276 2277 230; 2278 2278 220;
   2279 2280 230; 2281 2281 220; 2282 2284 230; 2285 2287 220; 2288 2288 27; 2289 2289 28;
   2290 2290 29; 2291 2293 230; 2294 2294 220; 2295 2296 230; 2297 2298 220; 2299 2303 230;
   2364 2364 7; 2381 2381 9; 2385 2385 230; 2386 2386 220; 2387 2388 230; 2492 2492 7; 2509 2509 9;
   2558 2558 230; 2620 2620 7; 2637 2637 9; 2748 2748 7; 2765 2765 9; 2876 2876 7; 2893 2893 9;
   3021 3021 9; 3132 3132 7; 3149 3149 9; 3157 3157 84; 3158 3158 91; 3260 3260 7; 3277 3277 9;
   3387 3388 9; 3405 3405 9; 3530 3530 9; 3640 3641 103; 3642 3642 9; 3656 3659 107; 3768 3769 118;
   3770 3770 9; 3784 3787 122; 3864 3865 220; 3893 3893 220; 3895 3895 220; 3897 3897 216;
   3953 3953 129; 3954 3954 130; 3956 3956 132; 3962 3965 130; 3968 3968 130; 3970 3971 230;
   3972 3972 9; 3974 3975 230; 4038 4038 220; 4151 4151 7; 4153 4154 9; 4237 4237 220;
   4957 4959 230; 5908 5909 9; 5940 5940 9; 6098 6098 9; 6109 6109 230; 6313 6313 228;
   6457 6457 222; 6458 6458 230; 6459 6459 220; 6679 6679 230; 6680 6680 220; 6752 6752 9;
   6773 6780 230; 6783 6783 220; 6832 6836 230; 6837 6842 220; 6843 6844 230; 6845 6845 220;
   6847 6848 220; 6849 6850 230; 6851 6852 220; 6853 6857 230; 6858 6858 220; 6859 6876 230;
   6877 6877 220; 6880 6885 230; 6886 6886 220; 6887 6890 230; 6891 6891 234; 6964 6964 7;
   6980 6980 9; 7019 7019 230; 7020 7020 220; 7021 7027 230; 7082 7083 9; 7142 7142 7; 7154 7155 9;
   7223 7223 7; 7376 7378 230; 7380 7380 1; 7381 7385 220; 7386 7387 230; 7388 7391 220;
   7392 7392 230; 7394 7400 1; 7405 7405 220; 7412 7412 230; 7416 7417 230; 7616 7617 230;
   7618 7618 220; 7619 7625 230; 7626 7626 220; 7627 7628 230; 7629 7629 234; 7630 7630 214;
   7631 7631 220; 7632 7632 202; 7633 7669 230; 7670 7670 232; 7671 7672 228; 7673 7673 220;
   7674 7674 218; 7675 7675 230; 7676 7676 233; 7677 7677 220; 7678 7678 230; 7679 7679 220;
   8400 8401 230; 8402 8403 1; 8404 8407 230; 8408 8410 1; 8411 8412 230; 8417 8417 230;
   8421 8422 1; 8423 8423 230; 8424 8424 220; 8425 8425 230; 8426 8427 1; 8428 8431 220;
   8432 8432 230; 11503 11505 230; 11647 11647 9; 11744 11775 230; 12330 12330 218;
   12331 12331 228; 12332 12332 232; 12333 12333 222; 12334 12335 224; 12441 12442 8;
   42607 42607 230; 42612 42621 230; 42654 42655 230; 42736 42737 230; 43014 43014 9;
   43052 43052 9; 43204 43204 9; 43232 43249 230; 43307 43309 220; 43347 43347 9; 43443 43443 7;
   43456 43456 9; 43696 43696 230; 43698 43699 230; 43700 43700 220; 43703 43704 230;
   43710 43711 230; 43713 43713 230; 43766 43766 9; 44013 44013 9; 64286 64286 26; 65056 65062 230;
   65063 65069 220; 65070 65071 230; 66045 66045 220; 66272 66272 220; 66422 66426 230;
   68109 68109 220; 68111 68111 230; 68152 68152 230; 68153 68153 1; 68154 68154 220;
   68159 68159 9; 68325 68325 230; 68326 68326 220; 68900 68903 230; 68969 68973 230;
   69291 69292 230; 69370 69371 220; 69373 69375 220; 69446 69447 220; 69448 69450 230;
   69451 69451 220; 69452 69452 230; 69453 69456 220; 69506 69506 230; 69507 69507 220;
   69508 69508 230; 69509 69509 220; 69702 69702 9; 69744 69744 9; 69759 69759 9; 69817 69817 9;
   69818 69818 7; 69888 69890 230; 69939 69940 9; 70003 70003 7; 70080 70080 9; 70090 70090 7;
   70197 70197 9; 70198 70198 7; 70377 70377 7; 70378 70378 9; 70459 70460 7; 70477 70477 9;
   70502 70508 230; 70512 70516 230; 70606 70608 9; 70722 70722 9; 70726 70726 7; 70750 70750 230;
   70850 70850 9; 70851 70851 7; 71103 71103 9; 71104 71104 7; 71231 71231 9; 71350 71350 9;
   71351 71351 7; 71467 71467 9; 71737 71737 9; 71738 71738 7; 71997 71998 9; 72003 72003 7;
   72160 72160 9; 72244 72244 9; 72263 72263 9; 72345 72345 9; 72767 72767 9; 73026 73026 7;
   73028 73029 9; 73111 73111 9; 73537 73538 9; 90415 90415 9; 92912 92916 1; 92976 92982 230;
   94192 94193 6; 113822 113822 1; 119141 119142 216; 119143 119145 1; 119149 119149 226;
   119150 119154 216; 119163 119170 220; 119173 119177 230; 119178 119179 220; 119210 119213 230;
   119362 119364 230; 122880 122886 230; 122888 122904 230; 122907 122913 230; 122915 122916 230;
   122918 122922 230; 123023 123023 230; 123184 123190 230; 123566 123566 230; 123628 123631 230;
   124140 124141 232; 124142 124142 220; 124143 124143 230; 124398 124398 230; 124399 124399 220;
   124643 124643 230; 124646 124646 230; 124654 124655 230; 124661 124661 230; 125136 125142 220;
   125252 125257 230; 125258 125258 7;"

end SkinRelay.Text
